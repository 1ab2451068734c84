import ProcessCompiler.Proofs.Ancestors
import ProcessCompiler.Proofs.Expressions

/-!
# What a compilation gathers

The metadata of a compilation are what its nodes request, in the order in which the walk comes to them. What of it is
kept of one kind is therefore read off the nodes that are visited, one after the other.

* `Node.askedAll`: everything that is requested for the nodes of a list.
* `Walk.metadata_eq`: a walk grants just this.
* `requests_of_mem_visits`: what a node that is visited requests.
* `mem_imports_iff`, `find?_helpers`: the imports and helpers of a graph, by the nodes that need them.
-/

namespace ProcessCompiler

/-! ## What is requested -/

mutual

/-- What is requested for a node and for the nodes in it, in order. -/
def Node.asked (plan : Plan) (scope : ScopeId) : Node → List Request
  | .plain header =>
    match plan.registry.find? header.type with
    | none => plan.skipRequests header
    | some generator => (generator.draft (plan.site rootHandle scope) (.plain header)).requests
  | .composite header own nodes connections =>
    match plan.registry.find? header.type with
    | none => plan.skipRequests header
    | some generator =>
      (generator.draft (plan.site rootHandle scope) (.composite header own nodes connections)).requests ++
        if generator.opens then Node.askedAll plan own nodes else []

/-- What is requested for the nodes of a list and for the nodes in them, in order. -/
def Node.askedAll (plan : Plan) (scope : ScopeId) : List Node → List Request
  | [] => []
  | node :: nodes => node.asked plan scope ++ Node.askedAll plan scope nodes

end

/-- What a node that is visited requests itself. -/
def Visit.requests (v : Visit) (plan : Plan) : List Request :=
  (v.generator.draft (plan.site rootHandle v.scope) v.node).requests

section Lists

variable {plan : Plan} {scope own : ScopeId} {node : Node} {generator : Generator} {header : NodeHeader}
  {children : List Node} {connections : List Connection}

theorem Node.asked_of_unknown (unknown : plan.registry.find? node.header.type = none) :
    node.asked plan scope = plan.skipRequests node.header := by
  cases node with
  | plain header => rw [asked, show plan.registry.find? header.type = none from unknown]; rfl
  | composite header own children connections =>
    rw [asked, show plan.registry.find? header.type = none from unknown]
    rfl

theorem Node.asked_of_closed (known : plan.registry.find? node.header.type = some generator)
    (closed : generator.opens = false) :
    node.asked plan scope = Visit.requests ⟨generator, scope, node⟩ plan := by
  cases node with
  | plain header => rw [asked, show plan.registry.find? header.type = some generator from known]; rfl
  | composite header own children connections =>
    rw [asked, show plan.registry.find? header.type = some generator from known]
    simp [closed, Visit.requests]

theorem Node.asked_composite (known : plan.registry.find? header.type = some generator)
    (opens : generator.opens = true) :
    (Node.composite header own children connections).asked plan scope =
      Visit.requests ⟨generator, scope, .composite header own children connections⟩ plan ++
        Node.askedAll plan own children := by
  rw [asked, known]
  simp [opens, Visit.requests]

end Lists

/-- Drafts alike request the same. -/
theorem Draft.Alike.requests_eq {α β : Type} {same : α → β → Prop} {d : Draft α} {d' : Draft β}
    (h : Draft.Alike same d d') : d.requests = d'.requests := by
  cases h with
  | done results => rfl
  | refused => rfl

/-- What is requested does not depend on the handle around a node. -/
theorem Visit.requests_of_drafted {plan : Plan} {handle : String} {scope : ScopeId} {node : Node}
    {generator : Generator} {requests : List Request} {code : String → Code} (uses : plan.registry.UsesBuiltins)
    (known : plan.registry.find? node.header.type = some generator)
    (drafted : generator.draft (plan.site handle scope) node = ⟨requests, .ok code⟩) :
    Visit.requests ⟨generator, scope, node⟩ plan = requests := by
  obtain ⟨type, rfl⟩ := uses _ _ known
  have sees : (plan.site rootHandle scope).SeesLike (plan.site handle scope) := ⟨rfl, fun _ => rfl⟩
  have alike : Draft.Alike _ (type.generator.draft (plan.site rootHandle scope) node)
      (type.generator.draft (plan.site handle scope) node) := sees.alike type fun _ _ _ _ _ _ => rfl
  rw [Visit.requests, alike.requests_eq, drafted]

/-- **A walk grants what is requested for its nodes**, and nothing else. -/
theorem Walk.metadata_eq {plan : Plan} (uses : plan.registry.UsesBuiltins) {handle : String} {scope : ScopeId}
    {nodes : List Node} {m n : Metadata} {out : List Instruction} (walk : Walk plan handle scope nodes m out n) :
    n = m.grantAll (Node.askedAll plan scope nodes) := by
  induction walk with
  | done =>
    rw [Node.askedAll]
    rfl
  | skip unknown rest ih => rw [ih, Node.askedAll, Node.asked_of_unknown unknown, Metadata.grantAll_append]
  | leaf known closed drafted rest ih =>
    have own := Visit.requests_of_drafted uses known drafted
    rw [ih, Node.askedAll, Node.asked_of_closed known closed, own, Metadata.grantAll_append]
  | composite known opens nested drafted named within rest ihWithin ihRest =>
    have own := Visit.requests_of_drafted uses (by exact known) drafted
    rw [ihRest, ihWithin, Node.askedAll, Node.asked_composite known opens, own, Metadata.grantAll_append,
      Metadata.grantAll_append]

/-! ## Nodes that are visited -/

section Visits

variable {plan : Plan} {β : Type} {f : Request → Option β}

mutual

theorem Node.filterMap_asked (skips : ∀ d, f (.diagnostic d) = none) (scope : ScopeId) (node : Node) :
    (node.asked plan scope).filterMap f =
      (node.visits plan.registry scope).flatMap fun v => (v.requests plan).filterMap f := by
  have skipped : (plan.skipRequests node.header).filterMap f = [] := by
    unfold Plan.skipRequests
    split
    · rw [List.filterMap_cons_none (skips _), List.filterMap_nil]
    · rfl
  cases known : plan.registry.find? node.header.type with
  | none =>
    rw [Node.asked_of_unknown known, Node.visits_of_unknown known, skipped]
    rfl
  | some generator =>
    cases opens : generator.opens with
    | false =>
      rw [Node.asked_of_closed known opens, Node.visits_of_closed known opens]
      simp
    | true =>
      match node with
      | .plain header =>
        have known : plan.registry.find? header.type = some generator := known
        rw [Node.visits_plain known, Node.asked, known]
        simp [Visit.requests]
      | .composite header own children connections =>
        have known : plan.registry.find? header.type = some generator := known
        rw [Node.asked_composite known opens, Node.visits_composite known opens, List.filterMap_append,
          List.flatMap_cons, Node.filterMap_askedAll skips own children]

/-- **What is requested of one kind is requested by the nodes that are visited**, in this order. Only diagnostics may
come from nodes that are left out. -/
theorem Node.filterMap_askedAll (skips : ∀ d, f (.diagnostic d) = none) (scope : ScopeId) (nodes : List Node) :
    (Node.askedAll plan scope nodes).filterMap f =
      (Node.visitsAll plan.registry scope nodes).flatMap fun v => (v.requests plan).filterMap f := by
  match nodes with
  | [] =>
    rw [Node.askedAll, Node.visitsAll]
    rfl
  | node :: nodes =>
    rw [Node.askedAll, Node.visitsAll, List.filterMap_append, List.flatMap_append,
      Node.filterMap_asked skips scope node, Node.filterMap_askedAll skips scope nodes]

end

end Visits

section Visited

variable {graph : ProcessGraph} {registry : Registry} {options : Options} {session : Session} {v : Visit}

/-- A node that is visited is drafted without a problem, if the graph is generated. -/
theorem exists_draft_of_mem_visits (uses : registry.UsesBuiltins)
    (generated : generate graph registry options = .ok session) (member : v ∈ graph.visits registry) :
    ∃ requests code, v.generator.draft (Plan.site ⟨registry, options, graph.scopes⟩ rootHandle v.scope) v.node =
      ⟨requests, .ok code⟩ := by
  have passes := (generate_eq_ok_iff_visits uses rootHandle).1 ⟨session, generated⟩ v member
  rw [Visit.refusal?, Option.or_eq_none_iff] at passes
  rcases drafted : v.generator.draft (Plan.site ⟨registry, options, graph.scopes⟩ rootHandle v.scope) v.node with
    ⟨requests, problem | code⟩
  · rw [Visit.rejection?_of_error drafted] at passes
    cases passes.2
  · exact ⟨requests, code, rfl⟩

/-- **A node that is visited requests what its type does**, if the graph is generated. -/
theorem requests_of_mem_visits (uses : registry.UsesBuiltins)
    (generated : generate graph registry options = .ok session) (member : v ∈ graph.visits registry)
    {type : BuiltinType} (builtin : v.generator = type.generator) :
    ∃ a : type.Attributes, type.readAttributes v.node.header.attributes = .ok a ∧
      v.requests ⟨registry, options, graph.scopes⟩ =
        type.requests a ⟨options, graph.scopes, rootHandle, v.scope⟩ v.node.header := by
  obtain ⟨requests, code, drafted⟩ := exists_draft_of_mem_visits uses generated member
  have drafted' := drafted
  rw [builtin] at drafted'
  obtain ⟨a, said⟩ := BuiltinType.drafted_of_eq_ok drafted'
  refine ⟨a, said.told, ?_⟩
  rw [Visit.requests, drafted]
  exact said.asked

end Visited

/-- What is gathered from a graph is what is requested for its nodes. -/
theorem metadata_of_generate {graph : ProcessGraph} {registry : Registry} {options : Options} {session : Session}
    (uses : registry.UsesBuiltins) (generated : generate graph registry options = .ok session) :
    session.metadata = (Metadata.empty graph.id).grantAll
      (Node.askedAll ⟨registry, options, graph.scopes⟩ ProcessGraph.rootScope graph.nodes) := by
  obtain ⟨out, walk, _⟩ := generate_eq_ok_iff.1 generated
  exact walk.metadata_eq uses

/-! ## Imports -/

/-- The path that a request imports. -/
def Request.import? : Request → Option String
  | .builder path _ => some path
  | _ => none

theorem Request.import?_eq_none {r : Request} (other : r.isBuilder = false) : r.import? = none := by
  cases r with
  | builder => cases other
  | _ => rfl

/-- The name and the code of the helper that a request is for. -/
def Request.helper? : Request → Option (String × Code)
  | .helper name code => some (name, code)
  | _ => none

namespace BuiltinType

/-- A node of a built-in type imports the type of its builder. -/
theorem filterMap_import?_requests (type : BuiltinType) (a : type.Attributes) (site : Site) (node : NodeHeader) :
    (type.requests a site node).filterMap Request.import? =
      [site.options.runtimePath ("nodes::" ++ type.factoryType)] :=
  filterMap_requests_of_builders (fun _ => Request.import?_eq_none) type a site node

/-- Whether a node with given attributes has conditions evaluated when the process runs. -/
def evaluates (type : BuiltinType) (a : type.Attributes) : Bool :=
  match type, a with
  | .milestone, _ => true
  | .split, (a : SplitAttributes) => a.kind ≠ .and
  | _, _ => false

/-- A node of a built-in type asks for the helper that evaluates conditions, if it has conditions evaluated. -/
theorem filterMap_helper?_requests (type : BuiltinType) (a : type.Attributes) (site : Site) (node : NodeHeader) :
    (type.requests a site node).filterMap Request.helper? =
      if type.evaluates a then [(conditionHelper, conditionHelperCode site.options)] else [] := by
  rw [filterMap_requests (fun _ => rfl) (fun _ _ _ => rfl)]
  cases type
  case start => obtain ⟨_ | signal⟩ := a <;> rfl
  case split =>
    by_cases every : SplitAttributes.kind a = .and
    · have none : BuiltinType.split.evaluates a = false := decide_eq_false fun other => other every
      simp only [none, wants, if_pos every]
      rfl
    · have one : BuiltinType.split.evaluates a = true := decide_eq_true every
      simp only [one, wants, if_neg every]
      rfl
  all_goals rfl

end BuiltinType

namespace Metadata

/-- **A set of names that requests are gathered in**: a request adds what it asks for of one kind. -/
structure Gathers (names : Metadata → NameSet) (asked : Request → Option String) : Prop where
  empty : ∀ processId, names (.empty processId) = .empty
  adds : ∀ m r name, asked r = some name → names (m.grant r) = (names m).add name
  keeps : ∀ m r, asked r = none → names (m.grant r) = names m
  skips : ∀ d, asked (.diagnostic d) = none

/-- **What is gathered after requests**: what was, and what they ask for. -/
theorem Gathers.mem_grantAll {names : Metadata → NameSet} {asked : Request → Option String}
    (gathers : Gathers names asked) (m : Metadata) (requests : List Request) (name : String) :
    name ∈ (names (m.grantAll requests)).toList ↔ name ∈ (names m).toList ∨ name ∈ requests.filterMap asked := by
  induction requests generalizing m with
  | nil => simp
  | cons r requests ih =>
    rw [grantAll_cons, ih]
    cases own : asked r with
    | none => rw [gathers.keeps m r own, List.filterMap_cons_none own]
    | some first =>
      rw [gathers.adds m r first own, NameSet.mem_toList_add, List.filterMap_cons_some own, List.mem_cons, or_assoc,
        or_left_comm]

theorem gathers_imports : Gathers Metadata.imports Request.import? where
  empty _ := rfl
  adds m r name asks := by cases r <;> cases asks; rfl
  keeps m r silent := by
    cases r with
    | builder path base => cases silent
    | helper name code => rw [grant, addHelper_eq]
    | _ => rfl
  skips _ := rfl

/-- What is imported after requests: what was, and what they import. -/
theorem mem_imports_grantAll (m : Metadata) (requests : List Request) (path : String) :
    path ∈ (m.grantAll requests).imports.toList ↔
      path ∈ m.imports.toList ∨ path ∈ requests.filterMap Request.import? :=
  gathers_imports.mem_grantAll m requests path

/-! ## Helpers -/

theorem find?_helpers_grant (m : Metadata) (r : Request) (name : String) :
    (m.grant r).helpers.find? name =
      (m.helpers.find? name).or ((r.helper?.toList.find? fun h => h.1 == name).map (·.2)) := by
  cases r with
  | helper own code =>
    rw [grant, addHelper, SortedMap.contains, Request.helper?, Option.toList_some, List.find?_singleton]
    by_cases same : own = name
    · subst same
      cases found : m.helpers.find? own with
      | some old => simp [found]
      | none => simp [SortedMap.find?_insert]
    · have other : (own == name) = false := by simpa using same
      rw [other]
      cases m.helpers.find? own with
      | some old => simp
      | none => simp [SortedMap.find?_insert, Ne.symm same]
  | _ => exact Option.or_none.symm

/-- **The helper of a name after requests**: the first one that was added under it. -/
theorem find?_helpers_grantAll (m : Metadata) (requests : List Request) (name : String) :
    (m.grantAll requests).helpers.find? name =
      (m.helpers.find? name).or
        (((requests.filterMap Request.helper?).find? fun h => h.1 == name).map (·.2)) := by
  induction requests generalizing m with
  | nil => exact Option.or_none.symm
  | cons r requests ih =>
    have first : (r :: requests).filterMap Request.helper? =
        r.helper?.toList ++ requests.filterMap Request.helper? := by
      cases asked : r.helper? with
      | none => rw [List.filterMap_cons_none asked]; rfl
      | some h => rw [List.filterMap_cons_some asked]; rfl
    rw [grantAll_cons, ih, find?_helpers_grant, Option.or_assoc, first, List.find?_append, Option.map_or]

end Metadata

/-! ## Whole graphs -/

/-- Whether a node that is visited has conditions evaluated when the process runs. -/
def Visit.Evaluates (v : Visit) : Prop :=
  ∃ (type : BuiltinType) (a : type.Attributes), v.generator = type.generator ∧
    type.readAttributes v.node.header.attributes = .ok a ∧ type.evaluates a = true

section Graphs

variable {graph : ProcessGraph} {registry : Registry} {options : Options} {session : Session}

/-- **The imports of a graph** are the types of the builders of the nodes that are visited. -/
theorem mem_imports_iff (uses : registry.UsesBuiltins) (generated : generate graph registry options = .ok session)
    (path : String) :
    path ∈ session.metadata.imports.toList ↔
      ∃ v ∈ graph.visits registry, ∃ type : BuiltinType, v.generator = type.generator ∧
        path = options.runtimePath ("nodes::" ++ type.factoryType) := by
  have skips : ∀ d, Request.import? (.diagnostic d) = none := fun _ => rfl
  rw [metadata_of_generate uses generated, Metadata.mem_imports_grantAll, Node.filterMap_askedAll skips,
    or_iff_right (by exact List.not_mem_nil), List.mem_flatMap]
  apply exists_congr
  intro v
  apply and_congr_right
  intro member
  constructor
  · intro imported
    obtain ⟨type, builtin⟩ := uses.exists_type member
    obtain ⟨a, _, asked⟩ := requests_of_mem_visits uses generated member builtin
    rw [asked, BuiltinType.filterMap_import?_requests, List.mem_singleton] at imported
    exact ⟨type, builtin, imported⟩
  · rintro ⟨type, builtin, rfl⟩
    obtain ⟨a, _, asked⟩ := requests_of_mem_visits uses generated member builtin
    rw [asked, BuiltinType.filterMap_import?_requests]
    exact List.mem_singleton_self _

/-- A node that is visited asks for a helper exactly if it has conditions evaluated. -/
theorem mem_helpers_requests_iff (uses : registry.UsesBuiltins)
    (generated : generate graph registry options = .ok session) {v : Visit} (member : v ∈ graph.visits registry)
    (h : String × Code) :
    h ∈ (v.requests ⟨registry, options, graph.scopes⟩).filterMap Request.helper? ↔
      h = (conditionHelper, conditionHelperCode options) ∧ v.Evaluates := by
  constructor
  · intro listed
    obtain ⟨type, builtin⟩ := uses.exists_type member
    obtain ⟨a, told, asked⟩ := requests_of_mem_visits uses generated member builtin
    rw [asked, BuiltinType.filterMap_helper?_requests] at listed
    split at listed
    · next evaluates => exact ⟨List.mem_singleton.1 listed, type, a, builtin, told, evaluates⟩
    · cases listed
  · rintro ⟨rfl, type, a, builtin, told, evaluates⟩
    obtain ⟨a', told', asked⟩ := requests_of_mem_visits uses generated member builtin
    obtain rfl : a = a' := Except.ok.inj (told.symm.trans told')
    rw [asked, BuiltinType.filterMap_helper?_requests, if_pos evaluates]
    exact List.mem_singleton_self _

/-- **The helpers of a graph**: the one that evaluates conditions, if a node that is visited needs it. -/
theorem find?_helpers (uses : registry.UsesBuiltins) (generated : generate graph registry options = .ok session)
    (name : String) (code : Code) :
    session.metadata.helpers.find? name = some code ↔
      (name = conditionHelper ∧ code = conditionHelperCode options) ∧ ∃ v ∈ graph.visits registry, v.Evaluates := by
  have skips : ∀ d, Request.helper? (.diagnostic d) = none := fun _ => rfl
  have asked : ∀ h, h ∈ (Node.askedAll ⟨registry, options, graph.scopes⟩ ProcessGraph.rootScope graph.nodes).filterMap
      Request.helper? ↔
        h = (conditionHelper, conditionHelperCode options) ∧ ∃ v ∈ graph.visits registry, v.Evaluates := by
    intro h
    rw [Node.filterMap_askedAll skips, List.mem_flatMap, ← exists_and_left]
    apply exists_congr
    intro v
    rw [and_left_comm]
    apply and_congr_right
    intro member
    exact mem_helpers_requests_iff uses generated member h
  rw [metadata_of_generate uses generated, Metadata.find?_helpers_grantAll]
  show (none.or _) = _ ↔ _
  rw [Option.none_or, Option.map_eq_some_iff]
  constructor
  · rintro ⟨⟨own, _⟩, found, rfl⟩
    obtain ⟨same, needed⟩ := (asked _).1 (List.mem_of_find?_eq_some found)
    cases same
    have named := List.find?_some found
    exact ⟨⟨(eq_of_beq named).symm, rfl⟩, needed⟩
  · rintro ⟨⟨rfl, rfl⟩, needed⟩
    have among := (asked (conditionHelper, conditionHelperCode options)).2 ⟨rfl, needed⟩
    have helped : (((Node.askedAll ⟨registry, options, graph.scopes⟩ ProcessGraph.rootScope graph.nodes).filterMap
        Request.helper?).find? fun h => h.1 == conditionHelper).isSome :=
      List.find?_isSome.2 ⟨_, among, by simp⟩
    obtain ⟨h, found⟩ := Option.isSome_iff_exists.1 helped
    refine ⟨h, found, ?_⟩
    rw [((asked h).1 (List.mem_of_find?_eq_some found)).1]

/-- A graph with a node that has conditions evaluated has one helper. -/
theorem helpers_of_evaluates (uses : registry.UsesBuiltins) (generated : generate graph registry options = .ok session)
    (needed : ∃ v ∈ graph.visits registry, v.Evaluates) :
    session.metadata.helpers.entries = [(conditionHelper, conditionHelperCode options)] := by
  have same : session.metadata.helpers = SortedMap.empty.insert conditionHelper (conditionHelperCode options) := by
    apply SortedMap.eq_of_find?_eq
    intro name
    apply Option.ext
    intro code
    rw [find?_helpers uses generated, and_iff_left needed, SortedMap.find?_insert]
    by_cases named : name = conditionHelper
    · simp [named, eq_comm]
    · simp [named]
  rw [same]
  rfl

/-- A graph without a node that has conditions evaluated has no helper. -/
theorem helpers_of_not_evaluates (uses : registry.UsesBuiltins)
    (generated : generate graph registry options = .ok session)
    (needless : ¬ ∃ v ∈ graph.visits registry, v.Evaluates) : session.metadata.helpers.entries = [] := by
  have same : session.metadata.helpers = SortedMap.empty := by
    apply SortedMap.eq_of_find?_eq
    intro name
    apply Option.ext
    intro code
    rw [find?_helpers uses generated]
    simp [needless]
  rw [same]
  rfl

end Graphs

end ProcessCompiler
