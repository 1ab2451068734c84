import ProcessCompiler.Body
import ProcessCompiler.Registry

/-!
# From a graph to the body of a program

A graph is walked once, each node before the nodes in it. A node whose type has no generator is skipped with all that
is in it. The first node that is rejected ends the walk.

* `generate`: the body and the metadata of a graph.
-/

namespace ProcessCompiler

/-- What has been generated so far. -/
structure Session where
  body : Body
  metadata : Metadata

/-- A step of generation. What was generated before an error is kept beside it. -/
abbrev Emit := EStateM GenerationError Session

/-- What stays the same on a walk. -/
structure Plan where
  registry : Registry
  options : Options
  scopes : Arena

namespace Emit

/-- Adds an instruction. -/
def push (instruction : Instruction) : Emit Unit :=
  modify fun s => { s with body := s.body.push instruction }

/-- Adds instructions. -/
def pushAll (instructions : List Instruction) : Emit Unit :=
  modify fun s => { s with body := ⟨s.body.instructions ++ instructions⟩ }

/-- Rejects a node. -/
def reject {α : Type} (node : NodeHeader) (problem : Problem) : Emit α :=
  throw (.rejected ⟨node.uniqueId, node.type, problem⟩)

/-- Grants what a draft requests, and takes its result. -/
def carryOut {α : Type} (node : NodeHeader) (draft : Draft α) : Emit α := do
  modify fun s => { s with metadata := draft.requests.foldl Metadata.grant s.metadata }
  match draft.result with
  | .ok a => pure a
  | .error problem => reject node problem

/-- Adds the instruction of a draft that creates a builder; returns the builder's handle. -/
def create (site : Site) (node : NodeHeader) (draft : Draft (String → Code)) : Emit String := do
  let handle := (← get).metadata.freshHandle node.handleBase
  let code ← carryOut node draft
  push ⟨.node node.uniqueId node.type, site.handle, code handle⟩
  pure handle

/-- Leaves a node out, and reports it if the options say so. -/
def skip (options : Options) (node : NodeHeader) : Emit Unit :=
  if options.diagnostics then
    modify fun s => { s with metadata := s.metadata.addDiagnostic ⟨node.uniqueId, node.type, .unsupportedType⟩ }
  else pure ()

end Emit

/-! ## Variables and connections -/

/-- The code of a variable's first value. -/
def Variable.initialCode (v : Variable) : Code :=
  match v.value with
  | some value => .word "Some" :: Code.arguments [value.code]
  | none => Code.words ["None"]

/-- The instruction that declares a variable. -/
def declareVariable (options : Options) (handle : String) (entry : String × Variable) : Instruction where
  kind := .declaration entry.1
  handle := handle
  code := Code.call handle "variable"
    [Code.string entry.1, options.runtimeMember ["DataType", entry.2.type.codeName], entry.2.initialCode]

/-- The instructions that declare the variables of a scope, in ascending order of their names. -/
def declareVariables (options : Options) (handle : String) (declarations : SortedMap Variable) : List Instruction :=
  declarations.entries.map (declareVariable options handle)

/-- The instruction that connects two nodes. -/
def connect (handle : String) (c : Connection) : Instruction where
  kind := .connection c.source c.target
  handle := handle
  code :=
    match c.label with
    | some label =>
      Code.call handle "connection_labeled" [Code.string c.source, Code.string c.target, Code.string label]
    | none => Code.call handle "connection" [Code.string c.source, Code.string c.target]

/-! ## The walk -/

/-- The problem of a node of a composite type without a sub-graph. -/
def noChildren : Problem := .malformedAttribute "composite node declares no child nodes"

/-- The number of a scope's parent, if the arena has the scope. -/
def parentOf (scopes : Arena) (scope : ScopeId) : Emit (Option ScopeId) :=
  match scopes.get scope with
  | .ok s => pure s.parent
  | .error e => throw (.foreignScope e)

mutual

/-- Generates a node for the graph with a handle and a scope. -/
def emitNode (plan : Plan) (handle : String) (scope : ScopeId) (node : Node) : Emit Unit :=
  let site : Site := ⟨plan.options, plan.scopes, handle, scope⟩
  match plan.registry.find? node.header.type with
  | none => Emit.skip plan.options node.header
  | some (.statement draft) => do
    let code ← Emit.carryOut node.header (draft site node.header)
    Emit.push ⟨.node node.header.uniqueId node.header.type, handle, code⟩
  | some (.builder draft) => do
    let _ ← Emit.create site node.header (draft site node.header)
  | some (.composite draft) =>
    match node with
    | .plain header => Emit.reject header noChildren
    | .composite header own nodes connections => do
      let parent ← parentOf plan.scopes own
      if parent ≠ some scope then Emit.reject header .scopeNotNested
      else
        let inner ← Emit.create site header (draft site header own)
        let declarations := ((plan.scopes.get? own).map Scope.declarations).getD .empty
        Emit.pushAll (declareVariables plan.options inner declarations)
        emitNodes plan inner own nodes
        Emit.pushAll (connections.map (connect inner))
        Emit.push ⟨.close header.uniqueId, inner, doneCode inner⟩

/-- Generates nodes in order. -/
def emitNodes (plan : Plan) (handle : String) (scope : ScopeId) : List Node → Emit Unit
  | [] => pure ()
  | node :: nodes => do
    emitNode plan handle scope node
    emitNodes plan handle scope nodes

end

/-- The steps that generate a whole graph. -/
def emitGraph (graph : ProcessGraph) (plan : Plan) : Emit Unit := do
  let declarations := ((plan.scopes.get? ProcessGraph.rootScope).map Scope.declarations).getD .empty
  Emit.pushAll (declareVariables plan.options rootHandle declarations)
  emitNodes plan rootHandle ProcessGraph.rootScope graph.nodes
  Emit.pushAll (graph.connections.map (connect rootHandle))

/-- Generates the body and the metadata of a graph. -/
def generate (graph : ProcessGraph) (registry : Registry) (options : Options) : Except GenerationError Session :=
  match (emitGraph graph ⟨registry, options, graph.scopes⟩).run ⟨.empty, .empty graph.id⟩ with
  | .ok () session => .ok session
  | .error e _ => .error e

end ProcessCompiler
