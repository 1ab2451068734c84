import ProcessCompiler.Graph

/-!
# How a graph stands to its definition

`Built arena parent enclosing definitions nodes` says that the nodes are those of the definitions, with unique ids below
`parent` and scopes inside `enclosing`. Every list of nodes in a graph that was built stands so to the list of node
definitions it comes from.

* `built_of_ofDefinitions`: nodes that are built are those of their definitions.
* `built_of_ofDefinition`: the same for a whole graph.
-/

namespace ProcessCompiler

/-! ## Arenas that grow -/

namespace Arena

variable {arena later latest : Arena} {id : ScopeId} {scope : Scope}

/-- An arena has all scopes of another one, under the same numbers. -/
def Extends (later arena : Arena) : Prop := ∃ newer, later.newestFirst = newer ++ arena.newestFirst

theorem Extends.refl (arena : Arena) : arena.Extends arena := ⟨[], rfl⟩

theorem Extends.trans (h : latest.Extends later) (h' : later.Extends arena) : latest.Extends arena := by
  obtain ⟨newest, same⟩ := h
  obtain ⟨newer, same'⟩ := h'
  exact ⟨newest ++ newer, by rw [same, same', List.append_assoc]⟩

theorem extends_push (arena : Arena) (scope : Scope) : (arena.push scope).2.Extends arena := ⟨[scope], rfl⟩

theorem index_lt_size (has : arena.has id) : id.index < arena.size := of_decide_eq_true has

theorem has_of_extends (h : later.Extends arena) (has : arena.has id) : later.has id := by
  obtain ⟨newer, same⟩ := h
  have below := index_lt_size has
  have longer : later.size = newer.length + arena.size := by simp [size, same]
  exact decide_eq_true (by omega)

/-- A scope that is found has a number below the size. -/
theorem has_of_get? (h : arena.get? id = some scope) : arena.has id := by
  have below : ∀ {scopes : List Scope} {i : Nat}, Scope.at? scopes i = some scope → i < scopes.length := by
    intro scopes
    induction scopes with
    | nil => intro i h; cases h
    | cons newest older ih =>
      intro i h
      rw [Scope.at?] at h
      split at h
      · simp_all
      · have := ih h
        simp only [List.length_cons]
        omega
  exact decide_eq_true (below h)

/-- A number below the size is that of a scope. -/
theorem exists_get?_of_has (has : arena.has id) : ∃ scope, arena.get? id = some scope := by
  have stands : ∀ {scopes : List Scope} {i : Nat}, i < scopes.length → ∃ scope, Scope.at? scopes i = some scope := by
    intro scopes
    induction scopes with
    | nil =>
      intro i below
      simp at below
    | cons newest older ih =>
      intro i below
      rw [Scope.at?]
      by_cases same : i = older.length
      · exact ⟨newest, if_pos same⟩
      · rw [if_neg same]
        refine ih ?_
        rw [List.length_cons] at below
        omega
  exact stands (index_lt_size has)

/-- The scopes that were there are found as before. -/
theorem get?_of_extends (h : later.Extends arena) (found : arena.get? id = some scope) :
    later.get? id = some scope := by
  obtain ⟨newer, same⟩ := h
  have below : id.index < arena.newestFirst.length := index_lt_size (has_of_get? found)
  unfold get? at found ⊢
  rw [same]
  clear same
  induction newer with
  | nil => exact found
  | cons newest newer ih =>
    have older : id.index ≠ (newer ++ arena.newestFirst).length := by
      simp only [List.length_append]
      omega
    rw [List.cons_append, Scope.at?, if_neg older]
    exact ih

end Arena

/-! ## The relation -/

/-- An id that a node may have. -/
def ValidId (id : String) : Prop := id ≠ "" ∧ idSeparator ∉ id.toList

/-- The ends of a connection are among the nodes with the given ids. -/
def Connection.IsAmong (c : Connection) (ids : List String) : Prop := c.source ∈ ids ∧ c.target ∈ ids

/-- **Nodes that are those of their definitions**, below a node with a unique id (or at the root) and in a scope. -/
inductive Built (arena : Arena) : Option String → ScopeId → List NodeDefinition → List Node → Prop
  | done {parent : Option String} {enclosing : ScopeId} : Built arena parent enclosing [] []
  | plain {parent : Option String} {enclosing : ScopeId} {definitions : List NodeDefinition} {nodes : List Node}
      {id type : String} {name : Option String} {attributes : SortedMap Json.Value}
      {declarations : Option (SortedMap Variable)} {connections : List Connection}
      (valid : ValidId id) (fresh : id ∉ definitions.map NodeDefinition.id)
      (bare : ∀ v ∈ declarations, v.isEmpty = true) (rest : Built arena parent enclosing definitions nodes) :
      Built arena parent enclosing (⟨id, type, name, attributes, declarations, none, connections⟩ :: definitions)
        (.plain ⟨id, uniqueId parent id, type, name, attributes⟩ :: nodes)
  | composite {parent : Option String} {enclosing own : ScopeId} {definitions inner : List NodeDefinition}
      {nodes children : List Node} {id type : String} {name : Option String} {attributes : SortedMap Json.Value}
      {declarations : Option (SortedMap Variable)} {connections : List Connection}
      (valid : ValidId id) (fresh : id ∉ definitions.map NodeDefinition.id)
      (found : arena.get? own = some ⟨declarations.getD .empty, some enclosing⟩) (newer : enclosing.index < own.index)
      (within : Built arena (some (uniqueId parent id)) own inner children)
      (joined : ∀ c ∈ connections, c.source ∈ inner.map NodeDefinition.id ∧ c.target ∈ inner.map NodeDefinition.id)
      (rest : Built arena parent enclosing definitions nodes) :
      Built arena parent enclosing
        (⟨id, type, name, attributes, declarations, some inner, connections⟩ :: definitions)
        (.composite ⟨id, uniqueId parent id, type, name, attributes⟩ own children connections :: nodes)

namespace Built

variable {arena later : Arena} {parent : Option String} {enclosing : ScopeId} {definitions : List NodeDefinition}
  {nodes : List Node}

/-- Nodes keep the ids of their definitions. -/
theorem ids_eq (h : Built arena parent enclosing definitions nodes) :
    nodes.map (·.header.id) = definitions.map NodeDefinition.id := by
  induction h with
  | done => rfl
  | plain valid fresh bare rest ih =>
    rw [List.map_cons, List.map_cons, ih]
    rfl
  | composite valid fresh found newer within joined rest ihWithin ihRest =>
    rw [List.map_cons, List.map_cons, ihRest]
    rfl

/-- Scopes that are added later change nothing. -/
theorem mono (h : Built arena parent enclosing definitions nodes) (extended : later.Extends arena) :
    Built later parent enclosing definitions nodes := by
  induction h with
  | done => exact .done
  | plain valid fresh bare rest ih => exact .plain valid fresh bare ih
  | composite valid fresh found newer within joined rest ihWithin ihRest =>
    exact .composite valid fresh (Arena.get?_of_extends extended found) newer ihWithin joined ihRest

end Built

/-! ## What is built -/

section Checks

variable {graph id : String} {seen ids : List String} {u : Unit}

theorem checkId_eq_ok (h : checkId graph seen id = .ok u) : ValidId id ∧ id ∉ seen := by
  unfold checkId at h
  split at h
  · cases h
  split at h
  · cases h
  split at h
  · cases h
  next filled whole fresh => exact ⟨⟨filled, whole⟩, fresh⟩

theorem missingEndpoint?_eq_none {c : Connection} (h : missingEndpoint? ids c = none) :
    c.source ∈ ids ∧ c.target ∈ ids := by
  unfold missingEndpoint? at h
  split at h
  · cases h
  split at h
  · cases h
  next source target => simpa using And.intro source target

theorem checkConnections_eq_ok {connections : List Connection} (h : checkConnections graph ids connections = .ok u) :
    ∀ c ∈ connections, c.source ∈ ids ∧ c.target ∈ ids := by
  induction connections with
  | nil => simp
  | cons c rest ih =>
    rw [checkConnections] at h
    split at h
    · cases h
    next known =>
      intro other member
      rcases List.mem_cons.1 member with rfl | member
      · exact missingEndpoint?_eq_none known
      · exact ih h other member

end Checks

/-- A computation that may fail succeeds if each part does. -/
theorem Except.bind_eq_ok_iff {ε α β : Type} {x : Except ε α} {next : α → Except ε β} {b : β} :
    x >>= next = .ok b ↔ ∃ a, x = .ok a ∧ next a = .ok b := by
  cases x <;> simp [bind, Except.bind]

theorem Except.toOption_eq_some_iff {ε α : Type} {x : Except ε α} {a : α} : x.toOption = some a ↔ x = .ok a := by
  cases x <;> simp [Except.toOption]

section Runs

variable {graph id type : String} {parent name : Option String} {attributes : SortedMap Json.Value}
  {declarations : Option (SortedMap Variable)} {definition : NodeDefinition} {inner rest : List NodeDefinition}
  {connections : List Connection} {enclosing : ScopeId} {seen : List String} {arena later : Arena} {node : Node}
  {nodes : List Node}

/-- A node that cannot have anything in it is built if it declares no variables. -/
theorem Node.ofDefinition_plain_eq_ok_iff :
    Node.ofDefinition parent enclosing arena ⟨id, type, name, attributes, declarations, none, connections⟩ =
        .ok (node, later) ↔
      (∀ v ∈ declarations, v.isEmpty = true) ∧ node = .plain ⟨id, uniqueId parent id, type, name, attributes⟩ ∧
        later = arena := by
  have bare_iff : ¬ declarations.any (fun v => !v.isEmpty) = true ↔ ∀ v ∈ declarations, v.isEmpty = true := by
    cases declarations <;> simp
  rw [Node.ofDefinition, ← bare_iff]
  constructor
  · intro h
    split at h
    · cases h
    next bare =>
      cases h
      exact ⟨bare, rfl, rfl⟩
  · rintro ⟨bare, rfl, rfl⟩
    exact if_neg bare

/-- A composite node is built if its scope is opened, the nodes in it are built and connections join them. -/
theorem Node.ofDefinition_composite_eq_ok_iff :
    Node.ofDefinition parent enclosing arena ⟨id, type, name, attributes, declarations, some inner, connections⟩ =
        .ok (node, later) ↔
      ∃ children, Node.ofDefinitions (uniqueId parent id) (some (uniqueId parent id))
          (openScope arena enclosing declarations).1 [] (openScope arena enclosing declarations).2 inner =
            .ok (children, later) ∧
        checkConnections (uniqueId parent id) (children.map (·.header.id)) connections = .ok () ∧
        node = .composite ⟨id, uniqueId parent id, type, name, attributes⟩
          (openScope arena enclosing declarations).1 children connections := by
  rw [Node.ofDefinition]
  constructor
  · intro h
    obtain ⟨⟨children, last⟩, inside, h⟩ := Except.bind_eq_ok_iff.1 h
    obtain ⟨_, checked, h⟩ := Except.bind_eq_ok_iff.1 h
    cases h
    exact ⟨children, inside, checked, rfl⟩
  · rintro ⟨children, inside, checked, rfl⟩
    exact Except.bind_eq_ok_iff.2 ⟨_, inside, Except.bind_eq_ok_iff.2 ⟨_, checked, rfl⟩⟩

/-- Nodes are built one behind the other, each after a look at its id. -/
theorem Node.ofDefinitions_cons_eq_ok_iff :
    Node.ofDefinitions graph parent enclosing seen arena (definition :: rest) = .ok (nodes, later) ↔
      ∃ first middle others, checkId graph seen definition.id = .ok () ∧
        Node.ofDefinition parent enclosing arena definition = .ok (first, middle) ∧
        Node.ofDefinitions graph parent enclosing (definition.id :: seen) middle rest = .ok (others, later) ∧
        nodes = first :: others := by
  rw [Node.ofDefinitions]
  constructor
  · intro h
    obtain ⟨_, checked, h⟩ := Except.bind_eq_ok_iff.1 h
    obtain ⟨⟨first, middle⟩, built, h⟩ := Except.bind_eq_ok_iff.1 h
    obtain ⟨⟨others, last⟩, more, h⟩ := Except.bind_eq_ok_iff.1 h
    cases h
    exact ⟨first, middle, others, checked, built, more, rfl⟩
  · rintro ⟨first, middle, others, checked, built, more, rfl⟩
    refine Except.bind_eq_ok_iff.2 ⟨_, checked, Except.bind_eq_ok_iff.2 ⟨_, built, ?_⟩⟩
    exact Except.bind_eq_ok_iff.2 ⟨_, more, rfl⟩

/-- A graph is built if its nodes are built in the scope of the process and connections join them. -/
theorem ProcessGraph.ofDefinition_eq_ok_iff {d : ProcessDefinition} {built : ProcessGraph} :
    ProcessGraph.ofDefinition d = .ok built ↔
      ∃ nodes later, Node.ofDefinitions d.id none (Arena.empty.root d.declarations).1 []
          (Arena.empty.root d.declarations).2 d.nodes = .ok (nodes, later) ∧
        checkConnections d.id (nodes.map (·.header.id)) d.connections = .ok () ∧
        built = ⟨d.id, d.name, d.version, nodes, d.connections, later⟩ := by
  rw [ProcessGraph.ofDefinition]
  constructor
  · intro h
    obtain ⟨⟨nodes, last⟩, inside, h⟩ := Except.bind_eq_ok_iff.1 h
    obtain ⟨_, checked, h⟩ := Except.bind_eq_ok_iff.1 h
    cases h
    exact ⟨nodes, last, inside, checked, rfl⟩
  · rintro ⟨nodes, last, inside, checked, rfl⟩
    exact Except.bind_eq_ok_iff.2 ⟨_, inside, Except.bind_eq_ok_iff.2 ⟨_, checked, rfl⟩⟩

end Runs

mutual

/-- A node that is built is that of its definition. -/
theorem built_of_ofDefinition_node {definition : NodeDefinition} {parent : Option String} {enclosing : ScopeId}
    {arena later : Arena} {node : Node} (has : arena.has enclosing)
    (h : Node.ofDefinition parent enclosing arena definition = .ok (node, later)) :
    later.Extends arena ∧ ∀ {latest : Arena} {definitions : List NodeDefinition} {nodes : List Node},
      latest.Extends later → ValidId definition.id → definition.id ∉ definitions.map NodeDefinition.id →
        Built latest parent enclosing definitions nodes →
          Built latest parent enclosing (definition :: definitions) (node :: nodes) := by
  match definition with
  | ⟨id, type, name, attributes, declarations, none, connections⟩ =>
    obtain ⟨bare, rfl, rfl⟩ := Node.ofDefinition_plain_eq_ok_iff.1 h
    exact ⟨.refl _, fun extended valid fresh built => .plain valid fresh bare built⟩
  | ⟨id, type, name, attributes, declarations, some inner, connections⟩ =>
    obtain ⟨children, inside, checked, rfl⟩ := Node.ofDefinition_composite_eq_ok_iff.1 h
    have opened : (openScope arena enclosing declarations).2.has (openScope arena enclosing declarations).1 :=
      Arena.has_of_get? (Arena.get?_push_self _ _)
    obtain ⟨grown, within, _⟩ := built_of_ofDefinitions opened inside
    refine ⟨grown.trans (Arena.extends_push _ _), fun extended valid fresh built => ?_⟩
    have found := Arena.get?_of_extends (extended.trans grown) (Arena.get?_push_self arena _)
    exact .composite valid fresh found (Arena.index_lt_size has) (within.mono extended)
      (within.ids_eq ▸ checkConnections_eq_ok checked) built

/-- **Nodes that are built are those of their definitions.** -/
theorem built_of_ofDefinitions {definitions : List NodeDefinition} {graph : String} {parent : Option String}
    {enclosing : ScopeId} {seen : List String} {arena later : Arena} {nodes : List Node} (has : arena.has enclosing)
    (h : Node.ofDefinitions graph parent enclosing seen arena definitions = .ok (nodes, later)) :
    later.Extends arena ∧ Built later parent enclosing definitions nodes ∧ ∀ d ∈ definitions, d.id ∉ seen := by
  match definitions with
  | [] =>
    rw [Node.ofDefinitions] at h
    cases h
    exact ⟨.refl _, .done, by simp⟩
  | definition :: rest =>
    obtain ⟨node, middle, others, checked, first, more, rfl⟩ := Node.ofDefinitions_cons_eq_ok_iff.1 h
    obtain ⟨valid, fresh⟩ := checkId_eq_ok checked
    obtain ⟨grown, extend⟩ := built_of_ofDefinition_node has first
    obtain ⟨grown', built, unseen⟩ := built_of_ofDefinitions (Arena.has_of_extends grown has) more
    refine ⟨grown'.trans grown, extend grown' valid ?_ built, ?_⟩
    · intro member
      obtain ⟨d, listed, same⟩ := List.mem_map.1 member
      exact unseen d listed (by simp [same])
    · intro d member
      rcases List.mem_cons.1 member with rfl | member
      · exact fresh
      · exact fun old => unseen d member (by simp [old])

end

/-- **A graph that is built has the nodes of its definition.** Its root scope holds the process variables. -/
theorem built_of_ofDefinition {d : ProcessDefinition} {graph : ProcessGraph}
    (h : ProcessGraph.ofDefinition d = .ok graph) :
    graph.id = d.id ∧ graph.connections = d.connections ∧
      graph.scopes.get? ProcessGraph.rootScope = some ⟨d.declarations, none⟩ ∧
      Built graph.scopes none ProcessGraph.rootScope d.nodes graph.nodes := by
  obtain ⟨nodes, last, inside, _, rfl⟩ := ProcessGraph.ofDefinition_eq_ok_iff.1 h
  obtain ⟨grown, built, _⟩ := built_of_ofDefinitions (Arena.has_of_get? (Arena.get?_push_self _ _)) inside
  exact ⟨rfl, rfl, Arena.get?_of_extends grown (Arena.get?_push_self _ _), built⟩

end ProcessCompiler
