import ProcessCompiler.Proofs.Ancestors

/-!
# Nodes on their own

Whether a node is rejected, and why, can be seen from the node alone: its generator is run for it by itself, with
nothing generated before, in the scope of the graph that the node belongs to. A graph is rejected for the first node
that is rejected on its own.

* `Visit.emitOwn`: what a generator does for a node, apart from what is in the node.
* `run_emitNode_closed`, `run_emitNode_opened`: a node takes these steps, and then those for what is in it.
* `Visit.verdict`: whether that succeeds, after something was generated.
* `first_failure_of_generate`: the nodes that fail on their own decide whether a graph is generated.
-/

namespace ProcessCompiler

/-! ## The steps of a node itself -/

/-- **What a generator does for a node itself**, for the graph around it. A node of a composite type must have nodes in
it. The result is the handle for these. -/
def Visit.emitOwn (v : Visit) (site : Site) : Emit String :=
  match v.generator with
  | .statement draft => do
    let code ← Emit.carryOut v.node.header (draft site v.node.header)
    Emit.push ⟨.node v.node.header.uniqueId v.node.header.type, site.handle, code⟩
    pure site.handle
  | .builder draft => Emit.create site v.node.header (draft site v.node.header)
  | .composite draft =>
    match v.node with
    | .plain header => Emit.reject header noChildren
    | .composite header own _ _ => Emit.create site header (draft site header own)

/-- Whether a node passes the steps for itself, after something was generated, or the error that they end with. -/
def Visit.verdict (v : Visit) (plan : Plan) (handle : String) (s : Session) : Except GenerationError Unit :=
  match (v.emitOwn (plan.site handle v.scope)).run s with
  | .ok _ _ => .ok ()
  | .error e _ => .error e

section Steps

variable {plan : Plan} {handle : String} {scope own : ScopeId} {node : Node} {generator : Generator} {s : Session}
  {header : NodeHeader} {children : List Node} {connections : List Connection}

/-- A node that is not opened takes the steps for itself. -/
theorem run_emitNode_closed (known : plan.registry.find? node.header.type = some generator)
    (closed : generator.opens = false) : (emitNode plan handle scope node).run s =
      (do let _ ← Visit.emitOwn ⟨generator, scope, node⟩ (plan.site handle scope)).run s := by
  unfold emitNode Visit.emitOwn
  rw [known]
  cases generator with
  | statement draft =>
    simp only [EStateM.run_bind, Emit.run_push, EStateM.run_pure, Plan.site]
    split <;> simp_all
  | builder draft => rfl
  | composite draft => cases closed

/-- A node that is opened takes the steps for itself, and then those for what is in it. -/
theorem run_emitNode_opened (known : plan.registry.find? header.type = some generator) (opens : generator.opens = true)
    (nested : plan.scopes.parent? own = some scope) :
    (emitNode plan handle scope (.composite header own children connections)).run s = (do
      let inner ← Visit.emitOwn ⟨generator, scope, .composite header own children connections⟩ (plan.site handle scope)
      Emit.pushAll (declareVariables plan.options inner (plan.declarations own))
      emitNodes plan inner own children
      Emit.pushAll (connections.map (connect inner))
      Emit.push ⟨.close header.uniqueId, inner, doneCode inner⟩).run s := by
  unfold emitNode Visit.emitOwn
  simp only [Node.header, known]
  cases generator with
  | statement draft => cases opens
  | builder draft => cases opens
  | composite draft =>
    simp only [EStateM.run_bind, run_parentOf_of_nested nested, ne_eq, not_true_eq_false, if_false]
    rfl

end Steps

namespace Visit

variable {plan : Plan} {handle : String} {s : Session}

/-- A node that is not rejected passes the steps for itself. -/
theorem verdict_of_ok {v : Visit} {requests : List Request} {code : String → Code}
    (drafted : v.generator.draft (plan.site handle v.scope) v.node = ⟨requests, .ok code⟩) :
    v.verdict plan handle s = .ok () := by
  obtain ⟨generator, scope, node⟩ := v
  unfold verdict emitOwn
  cases generator with
  | statement draft =>
    obtain ⟨granted, outcome⟩ := Draft.eq_of_map_const drafted
    rcases result : draft (plan.site handle scope) node.header with ⟨before, problem | said⟩
    · simp [result, Except.map] at outcome
    · simp only [EStateM.run_bind, Emit.run_carryOut_of_ok result, Emit.run_push, EStateM.run_pure]
  | builder draft =>
    have whole : draft (plan.site handle scope) node.header = ⟨requests, .ok code⟩ := drafted
    simp only [Emit.run_create_of_ok whole]
  | composite draft =>
    obtain ⟨header, own, children, connections, rfl⟩ := Generator.composite_of_draft_eq_ok rfl drafted
    have whole : draft (plan.site handle scope) header own = ⟨requests, .ok code⟩ := drafted
    simp only [Emit.run_create_of_ok whole]

/-- A node with a problem is rejected for it. -/
theorem verdict_of_error {v : Visit} {requests : List Request} {problem : Problem}
    (drafted : v.generator.draft (plan.site handle v.scope) v.node = ⟨requests, .error problem⟩) :
    v.verdict plan handle s = .error (.rejected ⟨v.node.header.uniqueId, v.node.header.type, problem⟩) := by
  obtain ⟨generator, scope, node⟩ := v
  unfold verdict emitOwn
  cases generator with
  | statement draft =>
    obtain ⟨granted, outcome⟩ := Draft.eq_of_map_const drafted
    rcases result : draft (plan.site handle scope) node.header with ⟨before, other | said⟩
    · simp only [result, Except.map, Except.error.injEq] at outcome
      simp only [EStateM.run_bind, Emit.run_carryOut_of_error result, outcome]
    · simp [result, Except.map] at outcome
  | builder draft =>
    have whole : draft (plan.site handle scope) node.header = ⟨requests, .error problem⟩ := drafted
    simp only [Emit.run_create_of_error whole]
  | composite draft =>
    cases node with
    | plain header =>
      simp only [Generator.draft, Draft.fail, Draft.mk.injEq, Except.error.injEq] at drafted
      obtain ⟨rfl, rfl⟩ := drafted
      rfl
    | composite header own children connections =>
      have whole : draft (plan.site handle scope) header own = ⟨requests, .error problem⟩ := drafted
      simp only [Emit.run_create_of_error whole, Node.header]

/-- **The verdict on a node is its rejection**, whatever was generated before. -/
theorem verdict_eq_error_iff {v : Visit} {e : GenerationError} :
    v.verdict plan handle s = .error e ↔ v.rejection? plan handle = some e := by
  rcases drafted : v.generator.draft (plan.site handle v.scope) v.node with ⟨requests, problem | code⟩
  · rw [verdict_of_error drafted, rejection?_of_error drafted, Except.error.injEq, Option.some.injEq]
  · rw [verdict_of_ok drafted, rejection?_of_ok drafted]
    simp

theorem verdict_eq_ok_iff {v : Visit} : v.verdict plan handle s = .ok () ↔ v.rejection? plan handle = none := by
  rcases drafted : v.generator.draft (plan.site handle v.scope) v.node with ⟨requests, problem | code⟩
  · rw [verdict_of_error drafted, rejection?_of_error drafted]
    simp
  · rw [verdict_of_ok drafted, rejection?_of_ok drafted]
    simp

end Visit

/-! ## Graphs that are built -/

/-- **In a graph that is built no node is misplaced**: the scope of a composite node lies in that of the graph around
the node. -/
theorem Built.misplacement?_eq_none {arena : Arena} {parent : Option String} {enclosing : ScopeId}
    {definitions : List NodeDefinition} {nodes : List Node} {registry : Registry}
    (built : Built arena parent enclosing definitions nodes) :
    ∀ v ∈ Node.visitsAll registry enclosing nodes, v.misplacement? arena = none := by
  induction built with
  | done =>
    intro v member
    cases member
  | plain valid fresh bare rest ih =>
    intro v member
    rcases Node.mem_visitsAll_plain.1 member with ⟨same, inside, known⟩ | beside
    · obtain ⟨generator, scope, node⟩ := v
      cases same
      rfl
    · exact ih v beside
  | @composite parent enclosing own definitions inner nodes children id type name attributes declarations connections
      valid fresh found newer within joined rest ihWithin ihRest =>
    intro v member
    rcases Node.mem_visitsAll_composite.1 member with ⟨same, inside, known⟩ | ⟨enters, deeper⟩ | beside
    · have nested : arena.parent? own = some v.scope := by
        rw [Arena.parent?, found, inside]
        rfl
      obtain ⟨generator, scope, node⟩ := v
      cases same
      cases opens : generator.opens with
      | false => exact Visit.misplacement?_of_closed opens
      | true => exact (Visit.misplacement?_eq_none_iff opens).2 nested
    · exact ihWithin v deeper
    · exact ihRest v beside

/-! ## The first failure -/

/-- The verdict on a node of a graph on its own, compiled with the default registry for a builder with a handle. -/
def ProcessGraph.verdict (graph : ProcessGraph) (options : Options) (handle : String) (v : Visit) :
    Except GenerationError Unit :=
  v.verdict ⟨.builtin, options, graph.scopes⟩ handle ⟨.empty, .empty graph.id⟩

/-- **A node is reached in a scope** if it has a built-in type, and only nodes of composite built-in types are around
it. The scope is that of the nearest of these, or that of the process. -/
def ProcessGraph.Reaches (graph : ProcessGraph) (v : Visit) : Prop :=
  ∃ around, graph.Within around v.node ∧
    (∀ outer ∈ around, ∃ type, BuiltinType.ofTag? outer.header.type = some type ∧ type.isComposite = true) ∧
    v.scope = Node.scopeInside around ∧
    ∃ type, BuiltinType.ofTag? v.node.header.type = some type ∧ type.generator = v.generator

/-- The default registry enters the nodes of composite types. -/
theorem Registry.enters_builtin_iff {node : Node} :
    builtin.Enters node ↔ ∃ type, BuiltinType.ofTag? node.header.type = some type ∧ type.isComposite = true := by
  rw [Enters, find?_builtin]
  cases BuiltinType.ofTag? node.header.type <;> simp

/-- A walk with the default registry comes to the nodes that are reached. -/
theorem ProcessGraph.mem_visits_builtin_iff {graph : ProcessGraph} {v : Visit} :
    v ∈ graph.visits .builtin ↔ graph.Reaches v := by
  rw [mem_visits_iff, Reaches]
  simp only [Registry.enters_builtin_iff, Registry.find?_builtin, Option.map_eq_some_iff]

/-- **The first node that fails on its own decides whether a graph is generated.** A graph is generated exactly if every
node that is reached passes on its own. Otherwise the error is that of the first one that does not, in the order of the
graph, and names that node. What was generated before a node changes nothing of its verdict, nor does the handle of the
builder around it. -/
theorem first_failure_of_generate {d : ProcessDefinition} {graph : ProcessGraph}
    (accepted : ProcessGraph.ofDefinition d = .ok graph) (options : Options) (handle : String) :
    (∀ v, v ∈ graph.visits .builtin ↔ graph.Reaches v) ∧
      ((graph.visits .builtin).map Visit.node).Sublist (Node.flattenAll graph.nodes) ∧
      ((∃ session, generate graph .builtin options = .ok session) ↔
        ∀ v, graph.Reaches v → graph.verdict options handle v = .ok ()) ∧
      (∀ e, generate graph .builtin options = .error e ↔ ∃ before v after,
        graph.visits .builtin = before ++ v :: after ∧ (∀ u ∈ before, graph.verdict options handle u = .ok ()) ∧
          graph.verdict options handle v = .error e) ∧
      ∀ v, graph.Reaches v → ∀ e, graph.verdict options handle v = .error e →
        (∃ problem, e = .rejected ⟨v.node.header.uniqueId, v.node.header.type, problem⟩) ∧
          ∀ other s, v.verdict ⟨.builtin, options, graph.scopes⟩ other s = .error e := by
  obtain ⟨_, _, _, built⟩ := built_of_ofDefinition accepted
  have uses := Registry.usesBuiltins_builtin
  have placed : ∀ v ∈ graph.visits .builtin, v.refusal? ⟨.builtin, options, graph.scopes⟩ handle =
      v.rejection? ⟨.builtin, options, graph.scopes⟩ handle := by
    intro v member
    rw [Visit.refusal?, built.misplacement?_eq_none v member, Option.none_or]
  refine ⟨fun v => ProcessGraph.mem_visits_builtin_iff, Node.visitsAll_sublist, ?_, ?_, ?_⟩
  · rw [generate_eq_ok_iff_visits uses handle]
    constructor
    · intro none v reached
      have member := ProcessGraph.mem_visits_builtin_iff.2 reached
      have passes := none v member
      rw [placed v member] at passes
      exact Visit.verdict_eq_ok_iff.2 passes
    · intro all v member
      rw [placed v member]
      exact Visit.verdict_eq_ok_iff.1 (all v (ProcessGraph.mem_visits_builtin_iff.1 member))
  · intro e
    rw [generate_eq_error_iff uses handle, List.findSome?_eq_some_iff]
    constructor
    · rintro ⟨before, v, after, split, fails, none⟩
      have member : v ∈ graph.visits .builtin := by simp [split]
      rw [placed v member] at fails
      refine ⟨before, v, after, split, fun u earlier => ?_, Visit.verdict_eq_error_iff.2 fails⟩
      have passes := none u earlier
      rw [placed u (by simp [split, earlier])] at passes
      exact Visit.verdict_eq_ok_iff.2 passes
    · rintro ⟨before, v, after, split, passes, fails⟩
      refine ⟨before, v, after, split, ?_, fun u earlier => ?_⟩
      · rw [placed v (by simp [split])]
        exact Visit.verdict_eq_error_iff.1 fails
      · rw [placed u (by simp [split, earlier])]
        exact Visit.verdict_eq_ok_iff.1 (passes u earlier)
  · intro v reached e fails
    have rejected := Visit.verdict_eq_error_iff.1 fails
    obtain ⟨around, _, _, _, type, _, builtin⟩ := reached
    constructor
    · obtain ⟨problem, _, same⟩ := Option.map_eq_some_iff.1 rejected
      exact ⟨problem, same.symm⟩
    · intro other s
      rw [Visit.verdict_eq_error_iff, Visit.rejection?_eq builtin.symm other handle]
      exact rejected

/-- A process with a composite node that passes, a task in it that does not, and a timer behind it that does not. -/
def failingDefinition : ProcessDefinition where
  id := "orders"
  name := none
  version := none
  declarations := .empty
  nodes := [
    ⟨"box", "sub", none, .empty, some (.ofList [("total", ⟨.number, none, none⟩)]),
      some [⟨"sum", "task", none, .ofList [("expr", .string "total + tax")], none, none, []⟩], []⟩,
    ⟨"wait", "timer", none, .ofList [("delay", .string "")], none, none, []⟩]
  connections := []

theorem first_failure_of_generate_nested : ∃ graph before v after,
    ProcessGraph.ofDefinition failingDefinition = .ok graph ∧
      graph.visits .builtin = before ++ v :: after ∧ v.node.header.uniqueId = "box:sum" ∧
      (∀ u ∈ before, graph.verdict .default "handle" u = .ok ()) ∧
      graph.verdict .default "handle" v =
        .error (.rejected ⟨"box:sum", "task", .undefinedVariable "tax" "total + tax"⟩) ∧
      generate graph .builtin .default =
        .error (.rejected ⟨"box:sum", "task", .undefinedVariable "tax" "total + tax"⟩) := by
  have refused : failingDefinition.refusal? .builtin .default =
      some (.rejected ⟨"box:sum", "task", .undefinedVariable "tax" "total + tax"⟩) := by decide +kernel
  obtain ⟨graph, accepted, stopped⟩ := ProcessDefinition.refusal?_eq_some_iff.1 refused
  obtain ⟨reached, _, _, first, names⟩ := first_failure_of_generate accepted .default "handle"
  obtain ⟨before, v, after, split, passes, fails⟩ := (first _).1 stopped
  obtain ⟨⟨problem, same⟩, _⟩ := names v ((reached v).1 (by simp [split])) _ fails
  simp only [GenerationError.rejected.injEq, CompileError.mk.injEq] at same
  exact ⟨graph, before, v, after, accepted, split, same.1.symm, passes, fails, stopped⟩

end ProcessCompiler
