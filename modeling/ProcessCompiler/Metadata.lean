import ProcessCompiler.Graph
import ProcessCompiler.Problem
import ProcessCompiler.Token

/-!
# What a compilation gathers besides code

All generators of one compilation share its metadata. It only grows: imports, work items and signals are sets, of two
helpers with one name the first stays, of two expressions for one attribute the later.

* `Metadata.freshHandle`: a name for a builder that no other builder has.
-/

namespace ProcessCompiler

/-! ## Diagnostics -/

/-- What a diagnostic reports: a node that was skipped, or an expression that was cut. -/
inductive DiagnosticKind where
  | unsupportedType
  | unclosedExpression (expression : String)
  deriving DecidableEq

/-- A report on a node that is compiled, or left out, in spite of it. -/
structure Diagnostic where
  nodeId : String
  nodeType : String
  kind : DiagnosticKind
  deriving DecidableEq

namespace Diagnostic

/-- The code of a diagnostic. -/
def code (d : Diagnostic) : String :=
  match d.kind with
  | .unsupportedType => "W001"
  | .unclosedExpression _ => "W002"

/-- The wording of a diagnostic. -/
def message (d : Diagnostic) : String :=
  match d.kind with
  | .unsupportedType => "no generator registered for type '" ++ d.nodeType ++ "', node skipped"
  | .unclosedExpression expression =>
    "expression '" ++ expression ++ "' lacks the closing '\x7d', last character dropped"

/-- A diagnostic as it is shown. -/
def display (d : Diagnostic) : String := nodeMessage d.code d.nodeId d.nodeType d.message

end Diagnostic

/-! ## Expressions -/

/-- A variable that an expression reads: where it is declared, and its type. -/
structure Reference where
  name : String
  scope : ScopeId
  type : VariableType
  deriving DecidableEq

/-- An expression with the variables it reads. -/
structure ResolvedExpression where
  text : String
  references : List Reference
  deriving DecidableEq

/-- The variable of a name that an expression reads. -/
def ResolvedExpression.reference? (e : ResolvedExpression) (name : String) : Option Reference :=
  e.references.find? fun r => r.name == name

/-! ## Metadata -/

/-- What a compilation has gathered. Expressions are kept by node and attribute. -/
structure Metadata where
  processId : String
  imports : NameSet
  helpers : SortedMap Code
  workItems : NameSet
  signals : NameSet
  expressions : SortedMap (SortedMap ResolvedExpression)
  diagnostics : List Diagnostic
  handles : NameSet

namespace Metadata

/-- Nothing is gathered yet. -/
def empty (processId : String) : Metadata := ⟨processId, .empty, .empty, .empty, .empty, .empty, [], .empty⟩

/-- Adds an import. -/
def addImport (m : Metadata) (path : String) : Metadata := { m with imports := m.imports.add path }

/-- Adds a helper function, unless there is one of that name. -/
def addHelper (m : Metadata) (name : String) (code : Code) : Metadata :=
  if m.helpers.contains name then m else { m with helpers := m.helpers.insert name code }

/-- Adding a helper leaves all but the helpers as it was. -/
theorem addHelper_eq (m : Metadata) (name : String) (code : Code) :
    m.addHelper name code = { m with helpers := (m.addHelper name code).helpers } := by
  unfold addHelper
  split <;> rfl

/-- Adds the name of a work item. -/
def addWorkItem (m : Metadata) (name : String) : Metadata := { m with workItems := m.workItems.add name }

/-- Adds a signal. -/
def addSignal (m : Metadata) (name : String) : Metadata := { m with signals := m.signals.add name }

/-- Adds a diagnostic. -/
def addDiagnostic (m : Metadata) (d : Diagnostic) : Metadata := { m with diagnostics := m.diagnostics ++ [d] }

/-- Keeps the expression of an attribute of a node. -/
def record (m : Metadata) (node key : String) (e : ResolvedExpression) : Metadata :=
  { m with expressions := m.expressions.insert node (((m.expressions.find? node).getD .empty).insert key e) }

/-- The expression of an attribute of a node. -/
def expression? (m : Metadata) (node key : String) : Option ResolvedExpression :=
  (m.expressions.find? node).bind fun attributes => attributes.find? key

/-- Of the expressions of one attribute the last counts; those of others stay. -/
theorem expression?_record (m : Metadata) (node key other otherKey : String) (e : ResolvedExpression) :
    (m.record node key e).expression? other otherKey =
      if other = node ∧ otherKey = key then some e else m.expression? other otherKey := by
  simp only [record, expression?, SortedMap.find?_insert]
  by_cases same : other = node
  · subst same
    by_cases sameKey : otherKey = key
    · simp [sameKey, SortedMap.find?_insert]
    · cases h : m.expressions.find? other <;> simp [sameKey, SortedMap.find?_insert]
  · simp [same]

/-- How many expressions are kept. -/
def expressionCount (m : Metadata) : Nat := m.expressions.entries.foldl (fun n e => n + e.2.entries.length) 0

/-- A name with a number behind it. -/
def numbered (base : String) (n : Nat) : String := base ++ "_" ++ toString n

/-- The first name with a number from `n` on that is not taken; one of so many numbers is free. Numbers from `2 ^ 31`
on, for which so many names must be taken first, are outside the model, which counts without a bound. -/
def search (taken : NameSet) (base : String) (n : Nat) : Nat → String
  | 0 => numbered base n
  | tries + 1 => if taken.contains (numbered base n) then search taken base (n + 1) tries else numbered base n

/-- The name itself if no builder has it, else the first of those numbered from two on. -/
def freshHandle (m : Metadata) (base : String) : String :=
  if m.handles.contains base then search m.handles base 2 m.handles.entries.length else base

/-- Gives a name to a builder. -/
def claim (m : Metadata) (base : String) : String × Metadata :=
  let handle := m.freshHandle base
  (handle, { m with handles := m.handles.add handle })

end Metadata

end ProcessCompiler
