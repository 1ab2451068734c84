import ProcessCompiler.Proofs.Occurrences

/-!
# What is wrong with a definition

Everything that is wrong with a definition can be listed: node by node, each with what is wrong inside it, and behind the
nodes of a list the connections of the list. A definition has a graph exactly if it is well formed, and else the first
violation is reported.

* `ProcessDefinition.WellFormed`: definitions that have a graph.
* `ProcessDefinition.violations`: what is wrong, in order.
* `violations_eq_nil_iff`: nothing is wrong exactly with a well formed definition.
* `first_violation_of_ofDefinition`: what building a graph comes to.
-/

namespace ProcessCompiler

/-! ## Well formed definitions -/

/-- Nodes side by side have valid and distinct ids, and connections join them. -/
structure NodeDefinition.WellJoined (definitions : List NodeDefinition) (connections : List Connection) : Prop where
  valid : ∀ definition ∈ definitions, ValidId definition.id
  distinct : (definitions.map NodeDefinition.id).Nodup
  joined : ∀ c ∈ connections, c.IsAmong (definitions.map NodeDefinition.id)

/-- What is directly in a node is well joined. A node that cannot have anything in it declares no variables. -/
structure NodeDefinition.WellFormed (definition : NodeDefinition) : Prop where
  inner : ∀ nodes ∈ definition.nodes, WellJoined nodes definition.connections
  bare : definition.nodes = none → ∀ v ∈ definition.declarations, v.isEmpty = true

/-- **Definitions whose nodes are well joined and well formed**, at every depth. -/
structure ProcessDefinition.WellFormed (d : ProcessDefinition) : Prop where
  top : NodeDefinition.WellJoined d.nodes d.connections
  nodes : ∀ unique above definition, d.Occurs unique above definition → definition.WellFormed

/-! ## Violations -/

/-- What is wrong with the id of a node behind nodes with other ids. -/
def idViolations (graph : String) (earlier : List String) (id : String) : List GraphError :=
  (if id = "" then [.emptyNodeId graph] else []) ++
    (if idSeparator ∈ id.toList then [.reservedSeparator graph id] else []) ++
    if id ∈ earlier then [.duplicateNodeId graph id] else []

/-- The ends of a connection that are not among the ids, the source before the target. -/
def Connection.violations (graph : String) (ids : List String) (c : Connection) : List GraphError :=
  ([c.source, c.target].filter (· ∉ ids)).map (.unknownEndpoint graph c.source c.target)

mutual

/-- What is wrong in a node, or with its variables if it has no sub-graph. -/
def NodeDefinition.violations (parent : Option String) : NodeDefinition → List GraphError
  | ⟨id, type, _, _, declarations, none, _⟩ =>
    if (declarations.getD .empty).isEmpty then [] else [.strayVariables (uniqueId parent id) type]
  | ⟨id, _, _, _, _, some nodes, connections⟩ =>
    NodeDefinition.violationsAll (uniqueId parent id) (some (uniqueId parent id)) [] nodes ++
      connections.flatMap (Connection.violations (uniqueId parent id) (nodes.map NodeDefinition.id))

/-- What is wrong with nodes and in them, behind nodes with other ids. -/
def NodeDefinition.violationsAll (graph : String) (parent : Option String) (earlier : List String) :
    List NodeDefinition → List GraphError
  | [] => []
  | definition :: rest =>
    idViolations graph earlier definition.id ++ definition.violations parent ++
      NodeDefinition.violationsAll graph parent (definition.id :: earlier) rest

end

/-- **What is wrong with a definition**, in order. -/
def ProcessDefinition.violations (d : ProcessDefinition) : List GraphError :=
  NodeDefinition.violationsAll d.id none [] d.nodes ++
    d.connections.flatMap (Connection.violations d.id (d.nodes.map NodeDefinition.id))

/-! ## Nothing is wrong -/

section Nothing

variable {graph id : String} {earlier ids : List String} {parent : Option String} {definition : NodeDefinition}
  {definitions : List NodeDefinition} {connections : List Connection}

theorem idViolations_eq_nil_iff : idViolations graph earlier id = [] ↔ ValidId id ∧ id ∉ earlier := by
  simp [idViolations, ValidId, and_assoc]

theorem Connection.violations_eq_nil_iff {c : Connection} : c.violations graph ids = [] ↔ c.IsAmong ids := by
  simp [violations, IsAmong]

theorem flatMap_violations_eq_nil_iff :
    connections.flatMap (Connection.violations graph ids) = [] ↔ ∀ c ∈ connections, c.IsAmong ids := by
  simp only [List.flatMap_eq_nil_iff, Connection.violations_eq_nil_iff]

namespace NodeDefinition

/-- Nothing is wrong with nodes exactly if their ids are valid and distinct, and nothing is wrong in each. -/
theorem violationsAll_eq_nil_iff : violationsAll graph parent earlier definitions = [] ↔
    (∀ definition ∈ definitions, ValidId definition.id ∧ definition.id ∉ earlier) ∧
      (definitions.map NodeDefinition.id).Nodup ∧ ∀ definition ∈ definitions, definition.violations parent = [] := by
  induction definitions generalizing earlier with
  | nil => simp [violationsAll]
  | cons first rest ih =>
    -- An id of the rest is not among the earlier ones and the first exactly if it is fresh and the first is not behind.
    have fresh : (∀ d ∈ rest, ValidId d.id ∧ d.id ∉ first.id :: earlier) ↔
        (∀ d ∈ rest, ValidId d.id ∧ d.id ∉ earlier) ∧ first.id ∉ rest.map NodeDefinition.id := by
      grind
    rw [violationsAll, List.append_eq_nil_iff, List.append_eq_nil_iff, idViolations_eq_nil_iff, ih, fresh,
      List.forall_mem_cons, List.forall_mem_cons, List.map_cons, List.nodup_cons]
    tauto

/-- Nothing is wrong in a node exactly if it is well formed and nothing is wrong in the nodes in it. -/
theorem violations_eq_nil_iff : definition.violations parent = [] ↔ definition.WellFormed ∧
    ∀ inner ∈ definition.nodes, ∀ nested ∈ inner, nested.violations (some (uniqueId parent definition.id)) = [] := by
  obtain ⟨id, type, name, attributes, declarations, nodes | nodes, connections⟩ := definition
  · rw [violations]
    constructor
    · intro h
      refine ⟨⟨nofun, fun _ v declared => ?_⟩, nofun⟩
      obtain rfl : declarations = some v := declared
      by_contra full
      simp [full] at h
    · rintro ⟨⟨_, bare⟩, _⟩
      cases declarations with
      | none => rfl
      | some v => exact if_pos (bare rfl v rfl)
  · rw [violations, List.append_eq_nil_iff, violationsAll_eq_nil_iff, flatMap_violations_eq_nil_iff]
    constructor
    · rintro ⟨⟨valid, distinct, inside⟩, joined⟩
      refine ⟨⟨?_, nofun⟩, ?_⟩
      · rintro inner ⟨⟩
        exact ⟨fun nested listed => (valid nested listed).1, distinct, joined⟩
      · rintro inner ⟨⟩
        exact inside
    · rintro ⟨⟨joined, _⟩, inside⟩
      obtain ⟨valid, distinct, joined⟩ := joined nodes rfl
      exact ⟨⟨fun nested listed => ⟨valid nested listed, List.not_mem_nil⟩, distinct, inside nodes rfl⟩, joined⟩

/-- If nothing is wrong with nodes, all nodes in them are well formed. -/
theorem Occurs.wellFormed {above around : List Enclosure} {unique : String}
    (h : Occurs parent above definitions unique around definition) :
    (∀ outer ∈ definitions, outer.violations parent = []) → definition.WellFormed := by
  induction h with
  | here member => exact fun clean => (violations_eq_nil_iff.1 (clean _ member)).1
  | inside member nested within ih => exact fun clean => ih ((violations_eq_nil_iff.1 (clean _ member)).2 _ nested)

mutual

/-- Nothing is wrong in a node if it and all nodes in it are well formed. -/
theorem violations_eq_nil {definition : NodeDefinition} {parent : Option String} (above : List Enclosure)
    (h : ∀ unique around nested, Occurs parent above [definition] unique around nested → nested.WellFormed) :
    definition.violations parent = [] := by
  refine violations_eq_nil_iff.2 ⟨h _ _ _ (.here List.mem_cons_self), ?_⟩
  match definition with
  | ⟨id, type, name, attributes, declarations, none, connections⟩ => exact nofun
  | ⟨id, type, name, attributes, declarations, some inner, connections⟩ =>
    rintro _ ⟨⟩
    exact forall_violations_eq_nil fun unique around nested within =>
      h unique around nested (.inside List.mem_cons_self rfl within)

/-- Nothing is wrong with nodes, but perhaps with their ids, if all nodes in them are well formed. -/
theorem forall_violations_eq_nil {definitions : List NodeDefinition} {parent : Option String} {above : List Enclosure}
    (h : ∀ unique around nested, Occurs parent above definitions unique around nested → nested.WellFormed) :
    ∀ definition ∈ definitions, definition.violations parent = [] := by
  match definitions with
  | [] => exact nofun
  | first :: rest =>
    refine List.forall_mem_cons.2 ⟨?_, ?_⟩
    · refine violations_eq_nil above fun unique around nested within => h unique around nested ?_
      exact within.mono (List.cons_subset_cons _ (List.nil_subset _))
    · exact forall_violations_eq_nil fun unique around nested within => h unique around nested within.cons

end

end NodeDefinition

/-- **Nothing is wrong exactly with a well formed definition.** -/
theorem ProcessDefinition.violations_eq_nil_iff {d : ProcessDefinition} : d.violations = [] ↔ d.WellFormed := by
  rw [violations, List.append_eq_nil_iff, NodeDefinition.violationsAll_eq_nil_iff, flatMap_violations_eq_nil_iff]
  constructor
  · rintro ⟨⟨valid, distinct, clean⟩, joined⟩
    refine ⟨⟨fun definition listed => (valid definition listed).1, distinct, joined⟩, ?_⟩
    exact fun unique above definition occurs => occurs.wellFormed clean
  · rintro ⟨⟨valid, distinct, joined⟩, sound⟩
    have fresh : ∀ definition ∈ d.nodes, ValidId definition.id ∧ definition.id ∉ ([] : List String) :=
      fun definition listed => ⟨valid definition listed, List.not_mem_nil⟩
    exact ⟨⟨fresh, distinct, NodeDefinition.forall_violations_eq_nil sound⟩, joined⟩

end Nothing

/-! ## The first violation -/

/-- The error of a computation that failed. -/
def Except.error? {ε α : Type} : Except ε α → Option ε
  | .ok _ => none
  | .error e => some e

section First

variable {ε α β : Type} {x : Except ε α} {graph id : String} {seen ids : List String}

theorem Except.error?_eq_none_iff : Except.error? x = none ↔ ∃ a, x = .ok a := by
  cases x <;> simp [Except.error?]

theorem Except.error?_eq_some_iff {e : ε} : Except.error? x = some e ↔ x = .error e := by
  cases x <;> simp [Except.error?]

/-- A sequence fails as its first part does, or else as what comes behind. -/
theorem Except.error?_bind {next : α → Except ε β} {first rest : Option ε} (fails : Except.error? x = first)
    (behind : ∀ a, x = .ok a → Except.error? (next a) = rest) : Except.error? (x >>= next) = first.or rest := by
  cases x with
  | error e =>
    rw [← fails]
    rfl
  | ok a =>
    rw [← fails, ← behind a rfl]
    rfl

theorem Except.error?_bind_of_ok {next : α → Except ε β} (behind : ∀ a, Except.error? (next a) = none) :
    Except.error? (x >>= next) = Except.error? x := by
  cases x with
  | error e => rfl
  | ok a => exact behind a

theorem error?_checkId : Except.error? (checkId graph seen id) = (idViolations graph seen id).head? := by
  unfold checkId idViolations
  by_cases filled : id = ""
  · simp [filled, Except.error?]
  by_cases whole : idSeparator ∈ id.toList
  · simp [filled, whole, Except.error?]
  by_cases fresh : id ∈ seen <;> simp [filled, whole, fresh, Except.error?]

theorem Connection.head?_violations {c : Connection} : (c.violations graph ids).head? =
    (missingEndpoint? ids c).map (.unknownEndpoint graph c.source c.target) := by
  unfold violations missingEndpoint?
  by_cases source : c.source ∈ ids <;> by_cases target : c.target ∈ ids <;> simp [source, target]

theorem error?_checkConnections {connections : List Connection} :
    Except.error? (checkConnections graph ids connections) =
      (connections.flatMap (Connection.violations graph ids)).head? := by
  induction connections with
  | nil => rfl
  | cons c rest ih =>
    rw [List.flatMap_cons, List.head?_append, Connection.head?_violations, ← ih, checkConnections]
    cases missingEndpoint? ids c <;> rfl

end First

theorem Node.id_of_ofDefinition {definition : NodeDefinition} {parent : Option String} {enclosing : ScopeId}
    {arena later : Arena} {node : Node} (h : Node.ofDefinition parent enclosing arena definition = .ok (node, later)) :
    node.header.id = definition.id := by
  obtain ⟨id, type, name, attributes, declarations, nodes | nodes, connections⟩ := definition
  · obtain ⟨_, rfl, _⟩ := Node.ofDefinition_plain_eq_ok_iff.1 h
    rfl
  · obtain ⟨children, _, _, rfl⟩ := Node.ofDefinition_composite_eq_ok_iff.1 h
    rfl

/-- Nodes that are built have the ids of their definitions. -/
theorem Node.ids_of_ofDefinitions {definitions : List NodeDefinition} {graph : String} {parent : Option String}
    {enclosing : ScopeId} {seen : List String} {arena later : Arena} {nodes : List Node}
    (h : Node.ofDefinitions graph parent enclosing seen arena definitions = .ok (nodes, later)) :
    nodes.map (·.header.id) = definitions.map NodeDefinition.id := by
  induction definitions generalizing seen arena later nodes with
  | nil =>
    rw [Node.ofDefinitions] at h
    cases h
    rfl
  | cons definition rest ih =>
    obtain ⟨node, middle, others, _, first, more, rfl⟩ := Node.ofDefinitions_cons_eq_ok_iff.1 h
    rw [List.map_cons, List.map_cons, ih more, Node.id_of_ofDefinition first]

mutual

/-- Building a node fails with the first thing that is wrong in it. -/
theorem error?_ofDefinition {definition : NodeDefinition} {parent : Option String} {enclosing : ScopeId}
    {arena : Arena} :
    Except.error? (Node.ofDefinition parent enclosing arena definition) = (definition.violations parent).head? := by
  match definition with
  | ⟨id, type, name, attributes, declarations, none, connections⟩ =>
    rw [Node.ofDefinition, NodeDefinition.violations]
    cases declarations with
    | none => rfl
    | some v => cases bare : v.isEmpty <;> simp [bare, Except.error?]
  | ⟨id, type, name, attributes, declarations, some inner, connections⟩ =>
    rw [Node.ofDefinition, NodeDefinition.violations, List.head?_append]
    refine Except.error?_bind error?_ofDefinitions fun ⟨children, last⟩ inside => ?_
    rw [← error?_checkConnections, ← Node.ids_of_ofDefinitions inside]
    exact Except.error?_bind_of_ok fun _ => rfl

/-- **Building nodes fails with the first thing that is wrong with them or in them.** -/
theorem error?_ofDefinitions {definitions : List NodeDefinition} {graph : String} {parent : Option String}
    {enclosing : ScopeId} {seen : List String} {arena : Arena} :
    Except.error? (Node.ofDefinitions graph parent enclosing seen arena definitions) =
      (NodeDefinition.violationsAll graph parent seen definitions).head? := by
  match definitions with
  | [] => rfl
  | definition :: rest =>
    rw [Node.ofDefinitions, NodeDefinition.violationsAll, List.append_assoc, List.head?_append, List.head?_append]
    refine Except.error?_bind error?_checkId fun _ _ => ?_
    refine Except.error?_bind error?_ofDefinition fun ⟨node, middle⟩ _ => ?_
    exact (Except.error?_bind_of_ok fun _ => rfl).trans error?_ofDefinitions

end

/-- **A definition has a graph exactly if it is well formed, and else the first of its violations is reported.** -/
theorem first_violation_of_ofDefinition (d : ProcessDefinition) :
    ((∃ graph, ProcessGraph.ofDefinition d = .ok graph) ↔ d.WellFormed) ∧
      ∀ e, ProcessGraph.ofDefinition d = .error e ↔ d.violations.head? = some e := by
  have fails : Except.error? (ProcessGraph.ofDefinition d) = d.violations.head? := by
    rw [ProcessGraph.ofDefinition, ProcessDefinition.violations, List.head?_append]
    refine Except.error?_bind error?_ofDefinitions fun outcome built => ?_
    obtain ⟨nodes, last⟩ := outcome
    rw [← error?_checkConnections, ← Node.ids_of_ofDefinitions built]
    exact Except.error?_bind_of_ok fun _ => rfl
  constructor
  · rw [← Except.error?_eq_none_iff, fails, List.head?_eq_none_iff, ProcessDefinition.violations_eq_nil_iff]
  · intro e
    rw [← Except.error?_eq_some_iff, fails]

/-- A process with something wrong of every kind, in a node and beside it. -/
def faultyDefinition : ProcessDefinition where
  id := "orders"
  name := none
  version := none
  declarations := .empty
  nodes := [
    ⟨"box", "sub", none, .empty, none,
      some [⟨"", "end", none, .empty, none, none, []⟩, ⟨"a:b", "end", none, .empty, none, none, []⟩],
      [⟨"a:b", "c", none⟩, ⟨"d", "e", none⟩]⟩,
    ⟨"box", "task", none, .empty, some (.ofList [("v", ⟨.string, none, none⟩)]), none, [⟨"x", "y", none⟩]⟩]
  connections := [⟨"box", "a:b", none⟩]

example : faultyDefinition.violations = [
    .emptyNodeId "box", .reservedSeparator "box" "a:b", .unknownEndpoint "box" "a:b" "c" "c",
    .unknownEndpoint "box" "d" "e" "d", .unknownEndpoint "box" "d" "e" "e", .duplicateNodeId "orders" "box",
    .strayVariables "box" "task", .unknownEndpoint "orders" "box" "a:b" "a:b"] := by
  decide +kernel

end ProcessCompiler
