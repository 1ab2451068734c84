import ProcessCompiler.Generation
import ProcessCompiler.Proofs.Registry

/-!
# Visitors of any kind

The generators that a walk looks up are visitors of a regular form: each asks for changes of the metadata and adds one
instruction, or opens a node and goes on with what is in it. A visitor as such may take any steps. It reads what has
been generated so far, and has the nodes in its node generated when, where and as often as it likes. What a graph comes
to with such visitors is said here; with those that the generators of a registry are, it is what is generated with the
registry.

* `Visitor`: any steps for a node.
* `Dispatched`: a node whose visitor has been looked up.
* `generateWith`: what a graph comes to with visitors.
* `generate_eq_generateWith`: generators are visitors.
* `generateWith_congr`: only the visitors of the types in use count.
-/

namespace ProcessCompiler

/-! ## Visitors -/

/-- **A node whose visitor has been looked up**, with those in it. `emit` generates it for the graph with a handle and a
scope. -/
structure Dispatched where
  emit : String → ScopeId → Emit Unit
  inside : List Dispatched

/-- **A visitor**: any steps for a node, in which those for the nodes in it can be taken. -/
abbrev Visitor := Site → Node → List Dispatched → Emit Unit

/-- Generates nodes in order. -/
def Dispatched.emitAll (handle : String) (scope : ScopeId) : List Dispatched → Emit Unit
  | [] => pure ()
  | node :: nodes => do
    node.emit handle scope
    emitAll handle scope nodes

section Dispatch

variable (visitor? : String → Option Visitor) (options : Options) (scopes : Arena)

/-- Looks up the visitor of a node; without one the node is skipped. -/
def dispatch (node : Node) (inside : List Dispatched) : Dispatched where
  emit handle scope :=
    match visitor? node.header.type with
    | none => Emit.skip options node.header
    | some visit => visit ⟨options, scopes, handle, scope⟩ node inside
  inside := inside

mutual

/-- Looks up the visitors of a node and of all that is in it. -/
def Node.dispatched : Node → Dispatched
  | .plain header => dispatch visitor? options scopes (.plain header) []
  | .composite header own nodes connections =>
    dispatch visitor? options scopes (.composite header own nodes connections) (Node.dispatchedAll nodes)

/-- Looks up the visitors of nodes and of all that is in them. -/
def Node.dispatchedAll : List Node → List Dispatched
  | [] => []
  | node :: nodes => Node.dispatched node :: Node.dispatchedAll nodes

end

end Dispatch

/-- **What a graph comes to with visitors**: its body and its metadata, or the first error. -/
def generateWith (visitor? : String → Option Visitor) (graph : ProcessGraph) (options : Options) :
    Except GenerationError Session :=
  let steps : Emit Unit := do
    let declarations := ((graph.scopes.get? ProcessGraph.rootScope).map Scope.declarations).getD .empty
    Emit.pushAll (declareVariables options rootHandle declarations)
    Dispatched.emitAll rootHandle ProcessGraph.rootScope
      (Node.dispatchedAll visitor? options graph.scopes graph.nodes)
    Emit.pushAll (graph.connections.map (connect rootHandle))
  match steps.run ⟨.empty, .empty graph.id⟩ with
  | .ok () session => .ok session
  | .error e _ => .error e

/-! ## Generators as visitors -/

/-- The visitor that a generator is. -/
def Generator.visitor : Generator → Visitor
  | .statement draft => fun site node _ => do
    let code ← Emit.carryOut node.header (draft site node.header)
    Emit.push ⟨.node node.header.uniqueId node.header.type, site.handle, code⟩
  | .builder draft => fun site node _ => do
    let _ ← Emit.create site node.header (draft site node.header)
  | .composite draft => fun site node inside =>
    match node with
    | .plain header => Emit.reject header noChildren
    | .composite header own _ connections => do
      let parent ← parentOf site.scopes own
      if parent ≠ some site.scope then Emit.reject header .scopeNotNested
      else
        let inner ← Emit.create site header (draft site header own)
        let declarations := ((site.scopes.get? own).map Scope.declarations).getD .empty
        Emit.pushAll (declareVariables site.options inner declarations)
        Dispatched.emitAll inner own inside
        Emit.pushAll (connections.map (connect inner))
        Emit.push ⟨.close header.uniqueId, inner, doneCode inner⟩

/-- The visitors that the generators of a registry are. -/
def Registry.visitor? (registry : Registry) (tag : String) : Option Visitor :=
  (registry.find? tag).map Generator.visitor

section Walks

variable (plan : Plan)

mutual

/-- A walk takes the steps of the visitor of a node. -/
theorem emitNode_eq_emit (handle : String) (scope : ScopeId) (node : Node) : emitNode plan handle scope node =
    (node.dispatched plan.registry.visitor? plan.options plan.scopes).emit handle scope := by
  match node with
  | .plain header =>
    unfold emitNode Node.dispatched dispatch
    cases found : plan.registry.find? header.type with
    | none => simp only [Node.header, found, Registry.visitor?, Option.map_none]
    | some generator =>
      simp only [Node.header, found, Registry.visitor?, Option.map_some]
      cases generator <;> rfl
  | .composite header own nodes connections =>
    have within (inner : String) := emitNodes_eq_emitAll inner own nodes
    unfold emitNode Node.dispatched dispatch
    cases found : plan.registry.find? header.type with
    | none => simp only [Node.header, found, Registry.visitor?, Option.map_none]
    | some generator =>
      have bound : plan.registry.visitor? header.type = some generator.visitor := congrArg _ found
      simp only [Node.header, found, bound, within]
      cases generator <;> rfl

/-- A walk takes the steps of the visitors of nodes. -/
theorem emitNodes_eq_emitAll (handle : String) (scope : ScopeId) (nodes : List Node) :
    emitNodes plan handle scope nodes = Dispatched.emitAll handle scope
      (Node.dispatchedAll plan.registry.visitor? plan.options plan.scopes nodes) := by
  match nodes with
  | [] => rfl
  | node :: nodes =>
    rw [emitNodes, emitNode_eq_emit handle scope node, emitNodes_eq_emitAll handle scope nodes]
    rfl

end

end Walks

/-- **What is generated with a registry** is what the graph comes to with the visitors that its generators are. -/
theorem generate_eq_generateWith (graph : ProcessGraph) (registry : Registry) (options : Options) :
    generate graph registry options = generateWith registry.visitor? graph options := by
  unfold generate emitGraph
  rw [emitNodes_eq_emitAll]
  rfl

/-! ## The visitors that count -/

section Congruence

variable {visitor? visitor?' : String → Option Visitor}

mutual

theorem Node.dispatched_congr {node : Node}
    (agree : ∀ n ∈ node.flatten, visitor? n.header.type = visitor?' n.header.type) (options : Options)
    (scopes : Arena) : node.dispatched visitor? options scopes = node.dispatched visitor?' options scopes := by
  match node with
  | .plain header =>
    have own := agree (.plain header) List.mem_cons_self
    simp only [Node.dispatched, dispatch, own]
  | .composite header inner nodes connections =>
    obtain ⟨own, within⟩ := List.forall_mem_cons.1 agree
    simp only [Node.dispatched, dispatch, own, Node.dispatchedAll_congr within options scopes]

/-- Nodes are dispatched alike by visitors that agree on their types, at every depth. -/
theorem Node.dispatchedAll_congr {nodes : List Node}
    (agree : ∀ n ∈ Node.flattenAll nodes, visitor? n.header.type = visitor?' n.header.type) (options : Options)
    (scopes : Arena) :
    Node.dispatchedAll visitor? options scopes nodes = Node.dispatchedAll visitor?' options scopes nodes := by
  match nodes with
  | [] => rfl
  | node :: nodes =>
    obtain ⟨first, others⟩ := List.forall_mem_append.1 agree
    rw [Node.dispatchedAll, Node.dispatchedAll, Node.dispatched_congr first, Node.dispatchedAll_congr others]

end

/-- **Only the visitors of the types in use count**: where the nodes of a graph have the same ones, at every depth, the
graph comes to the same. -/
theorem generateWith_congr {graph : ProcessGraph}
    (agree : ∀ n ∈ Node.flattenAll graph.nodes, visitor? n.header.type = visitor?' n.header.type) (options : Options) :
    generateWith visitor? graph options = generateWith visitor?' graph options := by
  rw [generateWith, generateWith, Node.dispatchedAll_congr agree]

end Congruence

end ProcessCompiler
