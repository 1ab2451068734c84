import ProcessCompiler.Proofs.Comparison
import ProcessCompiler.Proofs.Instructions

/-!
# The nodes that a walk comes to

The nodes that are compiled can be listed beforehand: a walk comes to the nodes whose type is known, each before what is
in it, and goes into those whose generator opens them. Whether a node is refused does not depend on what was compiled
before it, so a graph is refused for the first of these nodes that is.

* `ProcessGraph.visits`: the nodes of a graph that a walk comes to, in order.
* `Visit.refusal?`: why a node is refused.
* `error?_emitNodes`: a walk ends with the first refusal.
* `generate_eq_ok_iff_visits`, `generate_eq_error_iff`: the same for a whole graph.
-/

namespace ProcessCompiler

/-! ## Visits -/

/-- **A node as a walk comes to it**: with the generator of its type, in the scope of the graph around it. -/
structure Visit where
  generator : Generator
  scope : ScopeId
  node : Node

mutual

/-- The visits to a node and to the nodes in it, each node before what is in it. A node of no known type is not
visited, and a node is entered only if its generator opens it. -/
def Node.visits (registry : Registry) (scope : ScopeId) : Node → List Visit
  | .plain header =>
    match registry.find? header.type with
    | none => []
    | some generator => [⟨generator, scope, .plain header⟩]
  | .composite header own nodes connections =>
    match registry.find? header.type with
    | none => []
    | some generator =>
      ⟨generator, scope, .composite header own nodes connections⟩ ::
        if generator.opens then Node.visitsAll registry own nodes else []

/-- The visits to the nodes of a list and to the nodes in them. -/
def Node.visitsAll (registry : Registry) (scope : ScopeId) : List Node → List Visit
  | [] => []
  | node :: nodes => node.visits registry scope ++ Node.visitsAll registry scope nodes

end

/-- **The visits of a walk over a graph**, in order. -/
def ProcessGraph.visits (graph : ProcessGraph) (registry : Registry) : List Visit :=
  Node.visitsAll registry rootScope graph.nodes

section Lists

variable {registry : Registry} {scope own : ScopeId} {node : Node} {generator : Generator} {header : NodeHeader}
  {children : List Node} {connections : List Connection}

theorem Node.visits_of_unknown (unknown : registry.find? node.header.type = none) :
    node.visits registry scope = [] := by
  cases node with
  | plain header => rw [visits, show registry.find? header.type = none from unknown]
  | composite header own children connections => rw [visits, show registry.find? header.type = none from unknown]

theorem Node.visits_of_closed (known : registry.find? node.header.type = some generator)
    (closed : generator.opens = false) : node.visits registry scope = [⟨generator, scope, node⟩] := by
  cases node with
  | plain header => rw [visits, show registry.find? header.type = some generator from known]
  | composite header own children connections =>
    rw [visits, show registry.find? header.type = some generator from known]
    simp [closed]

theorem Node.visits_plain (known : registry.find? header.type = some generator) :
    (Node.plain header).visits registry scope = [⟨generator, scope, .plain header⟩] := by
  rw [visits, known]

theorem Node.visits_composite (known : registry.find? header.type = some generator) (opens : generator.opens = true) :
    (Node.composite header own children connections).visits registry scope =
      ⟨generator, scope, .composite header own children connections⟩ :: Node.visitsAll registry own children := by
  rw [visits, known]
  simp [opens]

end Lists

/-! ## Refusals -/

namespace Visit

/-- Why the scope of a composite node is refused: the arena does not have it, or it lies in another scope. -/
def misplacement? (v : Visit) (scopes : Arena) : Option GenerationError :=
  match v.node with
  | .plain _ => none
  | .composite header own _ _ =>
    if v.generator.opens then
      match scopes.get? own with
      | none => some (.foreignScope (.scope own))
      | some s =>
        if s.parent = some v.scope then none else some (.rejected ⟨header.uniqueId, header.type, .scopeNotNested⟩)
    else none

/-- Why the generator refuses the node, which it compiles for a builder with a handle. -/
def rejection? (v : Visit) (plan : Plan) (handle : String) : Option GenerationError :=
  (v.generator.draft (plan.site handle v.scope) v.node).problem?.map fun problem =>
    .rejected ⟨v.node.header.uniqueId, v.node.header.type, problem⟩

/-- **Why the node is refused**, if it is: first its place is checked, then what it is told. -/
def refusal? (v : Visit) (plan : Plan) (handle : String) : Option GenerationError :=
  (v.misplacement? plan.scopes).or (v.rejection? plan handle)

variable {v : Visit} {plan : Plan} {handle : String}

theorem rejection?_of_ok {requests : List Request} {code : String → Code}
    (drafted : v.generator.draft (plan.site handle v.scope) v.node = ⟨requests, .ok code⟩) :
    v.rejection? plan handle = none := by
  rw [rejection?, drafted]
  rfl

theorem rejection?_of_error {requests : List Request} {problem : Problem}
    (drafted : v.generator.draft (plan.site handle v.scope) v.node = ⟨requests, .error problem⟩) :
    v.rejection? plan handle = some (.rejected ⟨v.node.header.uniqueId, v.node.header.type, problem⟩) := by
  rw [rejection?, drafted]
  rfl

/-- A generator of a built-in type refuses a node whatever the handle around it is. -/
theorem rejection?_eq {type : BuiltinType} (builtin : v.generator = type.generator) (handle other : String) :
    v.rejection? plan handle = v.rejection? plan other := by
  have sees : (plan.site handle v.scope).SeesLike (plan.site other v.scope) := ⟨rfl, fun _ => rfl⟩
  have alike : Draft.Alike _ (type.generator.draft (plan.site handle v.scope) v.node)
      (type.generator.draft (plan.site other v.scope) v.node) := sees.alike type fun _ _ _ _ _ _ => rfl
  rw [rejection?, rejection?, builtin, alike.problem?_eq]

theorem refusal?_eq {type : BuiltinType} (builtin : v.generator = type.generator) (handle other : String) :
    v.refusal? plan handle = v.refusal? plan other := by
  rw [refusal?, refusal?, rejection?_eq builtin handle other]

/-- A node that does not open its own scope is nowhere misplaced. -/
theorem misplacement?_of_closed {scopes : Arena} (closed : v.generator.opens = false) :
    v.misplacement? scopes = none := by
  obtain ⟨generator, scope, header | ⟨header, own, children, connections⟩⟩ := v
  · rfl
  · simp [misplacement?, closed]

section Composite

variable {scopes : Arena} {generator : Generator} {scope own : ScopeId} {header : NodeHeader} {children : List Node}
  {connections : List Connection}

theorem misplacement?_of_opens (opens : generator.opens = true) :
    misplacement? ⟨generator, scope, .composite header own children connections⟩ scopes =
      match scopes.get? own with
      | none => some (.foreignScope (.scope own))
      | some s =>
        if s.parent = some scope then none else some (.rejected ⟨header.uniqueId, header.type, .scopeNotNested⟩) := by
  show (if generator.opens = true then _ else none) = _
  rw [if_pos opens]

/-- A composite node is in its place exactly if its scope lies in the scope around it. -/
theorem misplacement?_eq_none_iff (opens : generator.opens = true) :
    misplacement? ⟨generator, scope, .composite header own children connections⟩ scopes = none ↔
      scopes.parent? own = some scope := by
  rw [misplacement?_of_opens opens, Arena.parent?]
  cases scopes.get? own with
  | none => simp
  | some s => by_cases nested : s.parent = some scope <;> simp [nested]

end Composite

end Visit

/-! ## Walks that end early -/

namespace Emit

variable {α β : Type}

/-- The error that steps end with, if they do. -/
def error? (steps : Emit α) (s : Session) : Option GenerationError :=
  match steps.run s with
  | .ok _ _ => none
  | .error e _ => some e

theorem error?_of_ok {steps : Emit α} {s t : Session} {a : α} (h : steps.run s = .ok a t) : error? steps s = none := by
  rw [error?, h]

theorem error?_of_error {steps : Emit α} {s t : Session} {e : GenerationError} (h : steps.run s = .error e t) :
    error? steps s = some e := by
  rw [error?, h]

end Emit

section Runs

variable {plan : Plan}

/-- A composite node whose scope is refused ends the walk. -/
theorem error?_emitNode_misplaced {handle : String} {scope own : ScopeId} {header : NodeHeader} {children : List Node}
    {connections : List Connection} {generator : Generator} {e : GenerationError} (s : Session)
    (known : plan.registry.find? header.type = some generator) (opens : generator.opens = true)
    (misplaced : Visit.misplacement? ⟨generator, scope, .composite header own children connections⟩ plan.scopes =
      some e) :
    Emit.error? (emitNode plan handle scope (.composite header own children connections)) s = some e := by
  cases generator with
  | statement draft => cases opens
  | builder draft => cases opens
  | composite draft =>
    rw [Visit.misplacement?_of_opens opens] at misplaced
    refine Emit.error?_of_error (t := s) ?_
    unfold emitNode
    simp only [Node.header, known, EStateM.run_bind, parentOf, Arena.get]
    cases found : plan.scopes.get? own with
    | none =>
      rw [found] at misplaced
      cases misplaced
      rfl
    | some record =>
      rw [found] at misplaced
      by_cases nested : record.parent = some scope
      · simp [nested] at misplaced
      · simp only [nested, if_false, Option.some.injEq] at misplaced
        subst misplaced
        simp [nested]

/-- A composite node that is opened is refused for what is in it. -/
theorem error?_emitNode_opened {handle : String} {scope own : ScopeId} {header : NodeHeader} {children : List Node}
    {connections : List Connection} {generator : Generator} {requests : List Request} {code : String → Code}
    (s : Session) (known : plan.registry.find? header.type = some generator) (opens : generator.opens = true)
    (nested : plan.scopes.parent? own = some scope)
    (drafted : generator.draft (plan.site handle scope) (.composite header own children connections) =
      ⟨requests, .ok code⟩) :
    ∃ inner t, Emit.error? (emitNode plan handle scope (.composite header own children connections)) s =
      Emit.error? (emitNodes plan inner own children) t := by
  have ran := run_emitNode_composite (s := s) known opens nested drafted rfl
  split at ran
  · next inside => exact ⟨_, _, (Emit.error?_of_ok ran).trans (Emit.error?_of_ok inside).symm⟩
  · next inside => exact ⟨_, _, (Emit.error?_of_error ran).trans (Emit.error?_of_error inside).symm⟩

mutual

/-- A node is refused for the first refusal among it and the nodes in it. -/
theorem error?_emitNode (uses : plan.registry.UsesBuiltins) (base : String) {node : Node} {handle : String}
    {scope : ScopeId} (s : Session) :
    Emit.error? (emitNode plan handle scope node) s =
      (node.visits plan.registry scope).findSome? fun v => v.refusal? plan base := by
  cases known : plan.registry.find? node.header.type with
  | none =>
    rw [Node.visits_of_unknown known]
    exact Emit.error?_of_ok (run_emitNode_unknown known)
  | some generator =>
    obtain ⟨type, builtin⟩ := uses _ _ known
    have anyHandle : Visit.refusal? ⟨generator, scope, node⟩ plan base =
        Visit.refusal? ⟨generator, scope, node⟩ plan handle := Visit.refusal?_eq builtin base handle
    cases opens : generator.opens with
    | false =>
      have placed : Visit.misplacement? ⟨generator, scope, node⟩ plan.scopes = none :=
        Visit.misplacement?_of_closed opens
      rw [Node.visits_of_closed known opens, List.findSome?_singleton, anyHandle, Visit.refusal?, placed,
        Option.none_or]
      rcases drafted : generator.draft (plan.site handle scope) node with ⟨requests, problem | code⟩
      · rw [Visit.rejection?_of_error drafted]
        exact Emit.error?_of_error (run_emitNode_refused known (by simp [opens]) drafted)
      · rw [Visit.rejection?_of_ok drafted]
        exact Emit.error?_of_ok (run_emitNode_leaf known opens drafted)
    | true =>
      match node with
      | .plain header =>
        have known : plan.registry.find? header.type = some generator := known
        rw [Node.visits_plain known, List.findSome?_singleton, anyHandle, Visit.refusal?]
        rcases drafted : generator.draft (plan.site handle scope) (.plain header) with ⟨requests, problem | code⟩
        · rw [Visit.rejection?_of_error drafted]
          refine Emit.error?_of_error (run_emitNode_refused known ?_ drafted)
          rintro _ own ⟨⟩
        · obtain ⟨_, _, _, _, same⟩ := Generator.composite_of_draft_eq_ok opens drafted
          cases same
      | .composite header own children connections =>
        have known : plan.registry.find? header.type = some generator := known
        rw [Node.visits_composite known opens, List.findSome?_cons, anyHandle, Visit.refusal?]
        cases placed : Visit.misplacement? ⟨generator, scope, .composite header own children connections⟩
          plan.scopes with
        | some e =>
          rw [Option.some_or]
          exact error?_emitNode_misplaced s known opens placed
        | none =>
          have nested : plan.scopes.parent? own = some scope := (Visit.misplacement?_eq_none_iff opens).1 placed
          rw [Option.none_or]
          rcases drafted : generator.draft (plan.site handle scope) (.composite header own children connections) with
            ⟨requests, problem | code⟩
          · rw [Visit.rejection?_of_error drafted]
            refine Emit.error?_of_error (run_emitNode_refused known ?_ drafted)
            rintro _ _ ⟨⟩
            exact nested
          · rw [Visit.rejection?_of_ok drafted]
            obtain ⟨inner, t, inside⟩ := error?_emitNode_opened s known opens nested drafted
            rw [inside]
            exact error?_emitNodes uses base t

/-- **A walk ends with the first refusal** among the nodes that it comes to. -/
theorem error?_emitNodes (uses : plan.registry.UsesBuiltins) (base : String) {nodes : List Node} {handle : String}
    {scope : ScopeId} (s : Session) :
    Emit.error? (emitNodes plan handle scope nodes) s =
      (Node.visitsAll plan.registry scope nodes).findSome? fun v => v.refusal? plan base := by
  match nodes with
  | [] => rfl
  | node :: nodes =>
    have first : Emit.error? (emitNode plan handle scope node) s =
        (node.visits plan.registry scope).findSome? fun v => v.refusal? plan base := error?_emitNode uses base s
    rw [Node.visitsAll, List.findSome?_append, ← first, emitNodes, Emit.error?, EStateM.run_bind]
    cases ran : (emitNode plan handle scope node).run s with
    | error e t =>
      rw [Emit.error?_of_error ran]
      rfl
    | ok u t =>
      rw [Emit.error?_of_ok ran, Option.none_or]
      exact error?_emitNodes uses base t

end

end Runs

/-! ## Whole graphs -/

section Graphs

variable {graph : ProcessGraph} {registry : Registry} {options : Options}

theorem error?_emitGraph (plan : Plan) (uses : plan.registry.UsesBuiltins) (base : String) (s : Session) :
    Emit.error? (emitGraph graph plan) s =
      (graph.visits plan.registry).findSome? fun v => v.refusal? plan base := by
  rw [ProcessGraph.visits, emitGraph, Emit.error?]
  simp only [EStateM.run_bind, Emit.run_pushAll]
  have walked : Emit.error? (emitNodes plan rootHandle ProcessGraph.rootScope graph.nodes)
      (s.after (declareVariables plan.options rootHandle (plan.declarations ProcessGraph.rootScope)) s.metadata) =
        (Node.visitsAll plan.registry ProcessGraph.rootScope graph.nodes).findSome? fun v => v.refusal? plan base :=
    error?_emitNodes uses base _
  rw [← walked, Emit.error?]
  simp only [Plan.declarations]
  split <;> rename_i ran <;> split at ran <;> simp_all

/-- **A graph is generated exactly if no node that a walk comes to is refused.** -/
theorem generate_eq_ok_iff_visits (uses : registry.UsesBuiltins) (base : String) :
    (∃ session, generate graph registry options = .ok session) ↔
      ∀ v ∈ graph.visits registry, v.refusal? ⟨registry, options, graph.scopes⟩ base = none := by
  have walked : Emit.error? (emitGraph graph ⟨registry, options, graph.scopes⟩) ⟨.empty, .empty graph.id⟩ = _ :=
    error?_emitGraph ⟨registry, options, graph.scopes⟩ uses base _
  rw [← List.findSome?_eq_none_iff, ← walked, generate, Emit.error?]
  cases (emitGraph graph ⟨registry, options, graph.scopes⟩).run ⟨.empty, .empty graph.id⟩ <;> simp

/-- **A graph is refused for the first node that is.** -/
theorem generate_eq_error_iff (uses : registry.UsesBuiltins) (base : String) {e : GenerationError} :
    generate graph registry options = .error e ↔
      ((graph.visits registry).findSome? fun v => v.refusal? ⟨registry, options, graph.scopes⟩ base) = some e := by
  have walked : Emit.error? (emitGraph graph ⟨registry, options, graph.scopes⟩) ⟨.empty, .empty graph.id⟩ = _ :=
    error?_emitGraph ⟨registry, options, graph.scopes⟩ uses base _
  rw [← walked, generate, Emit.error?]
  cases (emitGraph graph ⟨registry, options, graph.scopes⟩).run ⟨.empty, .empty graph.id⟩ <;> simp

end Graphs

/-- The error that a definition ends with which is accepted, but from which nothing can be generated. -/
def ProcessDefinition.refusal? (d : ProcessDefinition) (registry : Registry) (options : Options) :
    Option GenerationError :=
  match ProcessGraph.ofDefinition d with
  | .error _ => none
  | .ok graph =>
    match generate graph registry options with
    | .ok _ => none
    | .error e => some e

theorem ProcessDefinition.refusal?_eq_some_iff {d : ProcessDefinition} {registry : Registry} {options : Options}
    {e : GenerationError} : d.refusal? registry options = some e ↔
      ∃ graph, ProcessGraph.ofDefinition d = .ok graph ∧ generate graph registry options = .error e := by
  unfold refusal?
  cases ProcessGraph.ofDefinition d with
  | error e => simp
  | ok graph => cases outcome : generate graph registry options <;> simp [outcome]

end ProcessCompiler
