import ProcessCompiler.Draft

/-!
# Generators

A generator says how nodes of a type are compiled. What a generator of a composite node drafts opens the node; what is
inside follows, and then the node is closed.
-/

namespace ProcessCompiler

/-- How nodes of a type are compiled. `statement` adds one instruction to the enclosing graph and `builder` one that
creates and finishes a builder; `composite` opens a builder for the nodes inside, and sees the node's own scope. -/
inductive Generator where
  | statement (draft : Site → NodeHeader → Draft Code)
  | builder (draft : Site → NodeHeader → Draft (String → Code))
  | composite (draft : Site → NodeHeader → ScopeId → Draft (String → Code))

end ProcessCompiler
