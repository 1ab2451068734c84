import ProcessCompiler.Proofs.Locality

/-!
# Chains of scopes

A composite node is opened only if its scope lies in the scope that the graph around it is compiled in. In a graph that
is built this is always so. In a graph whose composite nodes were given other scopes the walk ends at the first node
whose scope lies elsewhere.

* `Arena.Rooted`: a scope that the arena has, with all scopes around it.
* `BuiltinType.problem?_ne_scopeNotNested`: a draft does not judge where scopes lie.
* `scope_chain_of_generate`: the check of scopes lets through exactly what is nested.
-/

namespace ProcessCompiler

/-! ## Scopes of an arena -/

namespace Arena

/-- A scope that the arena has, with every scope around it up to one that nothing encloses. -/
inductive Rooted (arena : Arena) : ScopeId → Prop
  | top {id : ScopeId} {scope : Scope} (found : arena.get? id = some scope) (outermost : scope.parent = none) :
      Rooted arena id
  | inner {id enclosing : ScopeId} {scope : Scope} (found : arena.get? id = some scope)
      (nested : scope.parent = some enclosing) (around : Rooted arena enclosing) : Rooted arena id

end Arena

/-! ## Drafts do not judge scopes -/

/-- A site compared with itself: a draft has no problem that is about scopes. -/
def Site.unjudged (site : Site) (node : NodeHeader) : Comparison site site node where
  holds same d d' := Draft.Alike same d d' ∧ d.problem? ≠ some .scopeNotNested
  done results := ⟨.done results, nofun⟩
  refused problem apart := ⟨.refused, fun same => apart (Option.some.inj same)⟩
  bind := by
    rintro α β γ δ same same' d d' next next' ⟨alike, clean⟩ after
    refine ⟨alike.bind fun a b results => (after a b results).1, ?_⟩
    cases alike with
    | refused => exact clean
    | done results => exact (after _ _ results).2
  request _ _ := ⟨.refl _, nofun⟩
  normalize raw := by
    refine ⟨(Site.SeesLike.refl site).comparison node |>.normalize raw, ?_⟩
    unfold Draft.normalize
    cases Expression.isUnclosed raw with
    | false => exact nofun
    | true =>
      cases site.options.strictExpressions with
      | true => exact nofun
      | false => cases site.options.diagnostics <;> exact nofun
  requireVariable expression name := by
    refine ⟨.refl _, ?_⟩
    unfold Draft.requireVariable
    cases site.scopes.reference? site.scope name <;> exact nofun
  builder _ := ⟨.refl _, nofun⟩
  helper := ⟨.refl _, nofun⟩

/-- **A draft of a built-in type does not judge where scopes lie.** -/
theorem BuiltinType.problem?_ne_scopeNotNested (type : BuiltinType) (site : Site) (node : Node) :
    (type.generator.draft site node).problem? ≠ some .scopeNotNested :=
  ((site.unjudged node.header).generator type fun _ _ _ _ _ _ => rfl).2

/-! ## Refusals by the check of scopes -/

namespace Visit

variable {v : Visit} {plan : Plan} {handle : String}

/-- What a generator finds wrong with a node is never the place of its scope. -/
theorem rejection?_ne_scopeNotNested {type : BuiltinType} (builtin : v.generator = type.generator) (id tag : String) :
    v.rejection? plan handle ≠ some (.rejected ⟨id, tag, .scopeNotNested⟩) := by
  intro rejected
  obtain ⟨problem, wrong, same⟩ := Option.map_eq_some_iff.1 rejected
  simp only [GenerationError.rejected.injEq, CompileError.mk.injEq] at same
  rw [same.2.2, builtin] at wrong
  exact type.problem?_ne_scopeNotNested _ _ wrong

theorem rejection?_ne_foreignScope (e : ForeignScope) : v.rejection? plan handle ≠ some (.foreignScope e) := by
  intro rejected
  obtain ⟨problem, _, same⟩ := Option.map_eq_some_iff.1 rejected
  cases same

/-- A node that is opened and not refused lies in its place. -/
theorem nested_of_refusal?_eq_none (opens : v.generator.opens = true) (passes : v.refusal? plan handle = none) :
    ∃ own, v.node.scope? = some own ∧ plan.scopes.parent? own = some v.scope := by
  rw [refusal?, Option.or_eq_none_iff] at passes
  obtain ⟨placed, accepts⟩ := passes
  obtain ⟨generator, scope, node⟩ := v
  rcases drafted : generator.draft (plan.site handle scope) node with ⟨requests, problem | code⟩
  · rw [rejection?_of_error drafted] at accepts
    cases accepts
  · obtain ⟨header, own, children, connections, rfl⟩ := Generator.composite_of_draft_eq_ok opens drafted
    exact ⟨own, rfl, (misplacement?_eq_none_iff opens).1 placed⟩

/-- A node is refused for its scope only if it is opened and its scope lies elsewhere. -/
theorem misplaced_of_refusal? {type : BuiltinType} (builtin : v.generator = type.generator) {id tag : String}
    (refused : v.refusal? plan handle = some (.rejected ⟨id, tag, .scopeNotNested⟩)) :
    v.generator.opens = true ∧ v.node.header.uniqueId = id ∧ v.node.header.type = tag ∧
      ∃ own, v.node.scope? = some own ∧ plan.scopes.parent? own ≠ some v.scope := by
  rw [refusal?, Option.or_eq_some_iff] at refused
  rcases refused with misplaced | ⟨_, rejected⟩
  · obtain ⟨generator, scope, header | ⟨header, own, children, connections⟩⟩ := v
    · cases misplaced
    cases opens : generator.opens with
    | false =>
      rw [misplacement?_of_closed opens] at misplaced
      cases misplaced
    | true =>
      have elsewhere : plan.scopes.parent? own ≠ some scope := by
        intro nested
        rw [(misplacement?_eq_none_iff opens).2 nested] at misplaced
        cases misplaced
      rw [misplacement?_of_opens opens] at misplaced
      cases found : plan.scopes.get? own with
      | none =>
        rw [found] at misplaced
        cases misplaced
      | some s =>
        rw [found] at misplaced
        by_cases nested : s.parent = some scope
        · simp [nested] at misplaced
        · simp only [nested, if_false, Option.some.injEq, GenerationError.rejected.injEq, CompileError.mk.injEq]
            at misplaced
          exact ⟨rfl, misplaced.1, misplaced.2.1, own, rfl, elsewhere⟩
  · exact absurd rejected (rejection?_ne_scopeNotNested builtin id tag)

/-- A scope is foreign only if the arena does not have the scope of the node. -/
theorem foreign_of_refusal? {e : ForeignScope} (refused : v.refusal? plan handle = some (.foreignScope e)) :
    ∃ own, v.node.scope? = some own ∧ plan.scopes.get? own = none := by
  rw [refusal?, Option.or_eq_some_iff] at refused
  rcases refused with misplaced | ⟨_, rejected⟩
  · obtain ⟨generator, scope, header | ⟨header, own, children, connections⟩⟩ := v
    · cases misplaced
    refine ⟨own, rfl, ?_⟩
    cases opens : generator.opens with
    | false =>
      rw [misplacement?_of_closed opens] at misplaced
      cases misplaced
    | true =>
      rw [misplacement?_of_opens opens] at misplaced
      cases found : plan.scopes.get? own with
      | none => rfl
      | some s =>
        rw [found] at misplaced
        by_cases nested : s.parent = some scope <;> simp [nested] at misplaced
  · exact absurd rejected (rejection?_ne_foreignScope e)

end Visit

/-- A graph is refused for one of the nodes that a walk comes to. -/
theorem exists_refusal_of_generate {graph : ProcessGraph} {registry : Registry} {options : Options}
    {e : GenerationError} (uses : registry.UsesBuiltins) (stopped : generate graph registry options = .error e) :
    ∃ v ∈ graph.visits registry, v.refusal? ⟨registry, options, graph.scopes⟩ rootHandle = some e :=
  List.exists_of_findSome?_eq_some ((generate_eq_error_iff uses rootHandle).1 stopped)

/-! ## Graphs with other scopes -/

section Graphs

variable {arena : Arena} {parent : Option String} {enclosing : ScopeId} {definitions : List NodeDefinition}
  {nodes : List Node}

/-- The scopes of nodes that are built are in the arena, also if others from the arena are given to them. -/
theorem Built.exists_get?_rescope (built : Built arena parent enclosing definitions nodes)
    {scopes : String → Option ScopeId} (same : ∀ unique own, scopes unique = some own → arena.has own) :
    ∀ node ∈ Node.flattenAll (Node.rescopeAll scopes nodes), ∀ own, node.scope? = some own →
      ∃ scope, arena.get? own = some scope := by
  induction built with
  | done =>
    intro node member
    cases member
  | plain valid fresh bare rest ih =>
    intro node member own owned
    rw [Node.rescopeAll, Node.rescope, Node.flattenAll, Node.flatten, List.singleton_append] at member
    rcases List.mem_cons.1 member with rfl | beside
    · cases owned
    · exact ih node beside own owned
  | @composite parent enclosing own definitions inner nodes children id type name attributes declarations connections
      valid fresh found newer within joined rest ihWithin ihRest =>
    intro node member other owned
    rw [Node.rescopeAll, Node.rescope, Node.flattenAll, Node.flatten, List.cons_append] at member
    rcases List.mem_cons.1 member with rfl | member
    · cases owned
      cases given : scopes (uniqueId parent id) with
      | none => exact ⟨_, by simpa [given] using found⟩
      | some new => exact by simpa [given] using Arena.exists_get?_of_has (same _ _ given)
    · rcases List.mem_append.1 member with inside | beside
      · exact ihWithin node inside other owned
      · exact ihRest node beside other owned

/-- **Every scope that a walk over nodes that are built looks up is in the arena**, with all scopes around it. -/
theorem Built.rooted (built : Built arena parent enclosing definitions nodes) {registry : Registry}
    (rooted : arena.Rooted enclosing) :
    ∀ v ∈ Node.visitsAll registry enclosing nodes, arena.Rooted v.scope ∧
      ∀ own, v.node.scope? = some own → arena.Rooted own := by
  induction built with
  | done =>
    intro v member
    cases member
  | plain valid fresh bare rest ih =>
    intro v member
    rcases Node.mem_visitsAll_plain.1 member with ⟨same, inside, known⟩ | beside
    · rw [same, inside]
      exact ⟨rooted, nofun⟩
    · exact ih rooted v beside
  | @composite parent enclosing own definitions inner nodes children id type name attributes declarations connections
      valid fresh found newer within joined rest ihWithin ihRest =>
    intro v member
    have deep : arena.Rooted own := .inner found rfl rooted
    rcases Node.mem_visitsAll_composite.1 member with ⟨same, inside, known⟩ | ⟨enters, deeper⟩ | beside
    · rw [same, inside]
      exact ⟨rooted, fun other owned => Option.some.inj owned ▸ deep⟩
    · exact ihWithin deep v deeper
    · exact ihRest rooted v beside

/-- **The check of scopes lets through exactly what is nested.** Composite nodes of a graph that is built may be given
any scopes of its arena. If code comes out, the scope of each composite node that is reached lies in the scope that the
graph around it is compiled in. If a node is rejected for its scope, it is a composite node that is reached, and its
scope lies elsewhere. With the scopes that they were built with, nodes are never rejected for them, and every scope that
is looked up is in the arena with all scopes around it, whatever built-in types the tags are bound to. -/
theorem scope_chain_of_generate {d : ProcessDefinition} {graph : ProcessGraph}
    (accepted : ProcessGraph.ofDefinition d = .ok graph) (options : Options) :
    (∀ scopes : String → Option ScopeId, (∀ unique own, scopes unique = some own → graph.scopes.has own) →
      (∀ session, generate (graph.rescope scopes) .builtin options = .ok session →
        ∀ v, (graph.rescope scopes).Reaches v → v.generator.opens = true →
          ∃ own, v.node.scope? = some own ∧ graph.scopes.parent? own = some v.scope) ∧
      (∀ id tag, generate (graph.rescope scopes) .builtin options = .error (.rejected ⟨id, tag, .scopeNotNested⟩) →
        ∃ v, (graph.rescope scopes).Reaches v ∧ v.generator.opens = true ∧ v.node.header.uniqueId = id ∧
          v.node.header.type = tag ∧ ∃ own, v.node.scope? = some own ∧ graph.scopes.parent? own ≠ some v.scope) ∧
      ∀ e, generate (graph.rescope scopes) .builtin options ≠ .error (.foreignScope e)) ∧
    ∀ bindings : List (String × BuiltinType),
      (∀ id tag, generate graph (.ofTypes bindings) options ≠ .error (.rejected ⟨id, tag, .scopeNotNested⟩)) ∧
      (∀ e, generate graph (.ofTypes bindings) options ≠ .error (.foreignScope e)) ∧
      ∀ v ∈ graph.visits (.ofTypes bindings), graph.scopes.Rooted v.scope ∧
        ∀ own, v.node.scope? = some own → graph.scopes.Rooted own := by
  obtain ⟨_, _, root, built⟩ := built_of_ofDefinition accepted
  have rooted : graph.scopes.Rooted ProcessGraph.rootScope := .top root rfl
  constructor
  · intro scopes same
    have uses := Registry.usesBuiltins_builtin
    refine ⟨?_, ?_, ?_⟩
    · intro session generated v reached opens
      have passes := (generate_eq_ok_iff_visits uses rootHandle).1 ⟨session, generated⟩ v
        (ProcessGraph.mem_visits_builtin_iff.2 reached)
      exact Visit.nested_of_refusal?_eq_none opens passes
    · intro id tag stopped
      obtain ⟨v, member, refused⟩ := exists_refusal_of_generate uses stopped
      obtain ⟨type, builtin⟩ := uses.exists_type member
      exact ⟨v, ProcessGraph.mem_visits_builtin_iff.1 member, Visit.misplaced_of_refusal? builtin refused⟩
    · intro e stopped
      obtain ⟨v, member, refused⟩ := exists_refusal_of_generate uses stopped
      obtain ⟨own, owned, absent⟩ := Visit.foreign_of_refusal? refused
      have inside : v.node ∈ Node.flattenAll (Node.rescopeAll scopes graph.nodes) :=
        Node.visitsAll_sublist.subset (List.mem_map_of_mem member)
      obtain ⟨scope, found⟩ := built.exists_get?_rescope same v.node inside own owned
      cases found.symm.trans absent
  · intro bindings
    have uses := Registry.usesBuiltins_ofTypes bindings
    have placed : ∀ v ∈ graph.visits (.ofTypes bindings), v.misplacement? graph.scopes = none :=
      built.misplacement?_eq_none
    refine ⟨?_, ?_, built.rooted rooted⟩
    · intro id tag stopped
      obtain ⟨v, member, refused⟩ := exists_refusal_of_generate uses stopped
      obtain ⟨type, builtin⟩ := uses.exists_type member
      rw [Visit.refusal?, placed v member, Option.none_or] at refused
      exact Visit.rejection?_ne_scopeNotNested builtin id tag refused
    · intro e stopped
      obtain ⟨v, member, refused⟩ := exists_refusal_of_generate uses stopped
      rw [Visit.refusal?, placed v member, Option.none_or] at refused
      exact Visit.rejection?_ne_foreignScope e refused

end Graphs

/-- A process with a composite node in another one, and one beside. -/
def nestedDefinition : ProcessDefinition where
  id := "orders"
  name := none
  version := none
  declarations := .empty
  nodes := [
    ⟨"outer", "sub", none, .empty, none, some [⟨"inner", "sub", none, .empty, none, some [], []⟩], []⟩,
    ⟨"beside", "sub", none, .empty, none, some [], []⟩]
  connections := []

/-- The scope of the last node for the first, so that the node inside the first lies elsewhere. -/
def misplacing (unique : String) : Option ScopeId := if unique = "outer" then some ⟨3⟩ else none

theorem scope_chain_of_generate_misplaced : ∃ graph v own,
    ProcessGraph.ofDefinition nestedDefinition = .ok graph ∧ graph.scopes.size = 4 ∧
      generate (graph.rescope misplacing) .builtin .default =
        .error (.rejected ⟨"outer:inner", "sub", .scopeNotNested⟩) ∧
      (graph.rescope misplacing).Reaches v ∧ v.node.header.uniqueId = "outer:inner" ∧ v.node.scope? = some own ∧
      graph.scopes.parent? own ≠ some v.scope ∧
      generate graph (.ofTypes [("sub", .subProcess)]) .default ≠
        .error (.rejected ⟨"outer:inner", "sub", .scopeNotNested⟩) := by
  have outcome : (ProcessGraph.ofDefinition nestedDefinition).toOption.map (fun graph => (graph.scopes.size,
      (generate (graph.rescope misplacing) .builtin .default).map fun _ => ())) =
        some (4, .error (.rejected ⟨"outer:inner", "sub", .scopeNotNested⟩)) := by
    decide +kernel
  obtain ⟨graph, built, same⟩ := Option.map_eq_some_iff.1 outcome
  have accepted := Except.toOption_eq_some_iff.1 built
  obtain ⟨size, refused⟩ := Prod.mk.inj same
  have stopped : generate (graph.rescope misplacing) .builtin .default =
      .error (.rejected ⟨"outer:inner", "sub", .scopeNotNested⟩) := by
    cases ran : generate (graph.rescope misplacing) .builtin .default <;> simp_all [Except.map]
  have among : ∀ unique own, misplacing unique = some own → graph.scopes.has own := by
    intro unique own given
    unfold misplacing at given
    split at given
    · cases given
      show decide (3 < graph.scopes.size) = true
      rw [size]
      rfl
    · cases given
  obtain ⟨replaced, unchanged⟩ := scope_chain_of_generate accepted .default
  obtain ⟨v, reached, _, named, _, own, owned, elsewhere⟩ := (replaced misplacing among).2.1 _ _ stopped
  exact ⟨graph, v, own, accepted, size, stopped, reached, named, owned, elsewhere,
    (unchanged [("sub", .subProcess)]).1 _ _⟩

end ProcessCompiler
