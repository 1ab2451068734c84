import ProcessCompiler.Proofs.Ancestors
import ProcessCompiler.Proofs.Occurrences

/-!
# Nodes and their paths

The ids on the path from the root to a node, joined by the separator, are the unique id of the node. No id has the
separator in it, so the parts of a unique id are the path again, and lead to the node.

* `Node.AtPath`: the node at the end of a path of ids.
* `Built.uniqueId_of_atPath`: a unique id is a path.
* `Built.findPath?_eq_some_iff`: a path is followed to the node at its end.
* `find?_of_ofDefinition`: a node is found by its unique id, and by no other text.
-/

namespace ProcessCompiler

/-! ## Paths -/

/-- **A node at the end of a path of ids**, which starts among the given nodes. -/
inductive Node.AtPath : List Node → List String → Node → Prop
  | here {nodes : List Node} {node : Node} (member : node ∈ nodes) : AtPath nodes [node.header.id] node
  | inside {nodes : List Node} {outer node : Node} {path : List String} (member : outer ∈ nodes)
      (within : AtPath outer.children path node) : AtPath nodes (outer.header.id :: path) node

namespace Node.AtPath

variable {nodes more : List Node} {node : Node} {path : List String}

theorem ne_nil (h : AtPath nodes path node) : path ≠ [] := by
  cases h <;> simp

theorem mono (h : AtPath nodes path node) (sub : nodes ⊆ more) : AtPath more path node := by
  cases h with
  | here member => exact .here (sub member)
  | inside member within => exact .inside (sub member) within

theorem mem_flattenAll (h : AtPath nodes path node) : node ∈ Node.flattenAll nodes := by
  induction h with
  | here member => exact Node.subset_flattenAll _ member
  | inside member within ih => exact Node.flattenAll_children_subset_of_mem (Node.subset_flattenAll _ member) ih

/-- Every node at any depth is at the end of a path. -/
theorem exists_of_mem_flattenAll {nodes : List Node} (member : node ∈ Node.flattenAll nodes) :
    ∃ path, AtPath nodes path node := by
  match nodes with
  | .plain header :: nodes =>
    rcases List.mem_cons.1 member with rfl | beside
    · exact ⟨_, .here List.mem_cons_self⟩
    · obtain ⟨path, stands⟩ := exists_of_mem_flattenAll beside
      exact ⟨path, stands.mono (List.subset_cons_self _ _)⟩
  | .composite header own children connections :: nodes =>
    rw [Node.flattenAll, Node.flatten, List.cons_append, List.mem_cons, List.mem_append] at member
    rcases member with rfl | inside | beside
    · exact ⟨_, .here List.mem_cons_self⟩
    · obtain ⟨path, stands⟩ := exists_of_mem_flattenAll inside
      exact ⟨_, .inside List.mem_cons_self stands⟩
    · obtain ⟨path, stands⟩ := exists_of_mem_flattenAll beside
      exact ⟨path, stands.mono (List.subset_cons_self _ _)⟩

end Node.AtPath

/-! ## Texts of paths -/

theorem splitChars_eq_splitOn (separator : Char) (cs : List Char) : splitChars separator cs = cs.splitOn separator := by
  induction cs with
  | nil => rfl
  | cons c cs ih =>
    rw [splitChars, List.splitOn, List.splitOnP_cons_eq_if_modifyHead, ← List.splitOn, ih]
    by_cases same : c = separator
    · simp [same]
    · cases parts : cs.splitOn separator with
      | nil => exact absurd parts (List.splitOn_ne_nil _ _)
      | cons part parts => simp [same]

/-- The text of a path is the unique id of its first node, continued. -/
theorem intercalate_cons (id : String) {path : List String} (more : path ≠ []) :
    ":".intercalate (id :: path) = uniqueId (some id) (":".intercalate path) := by
  cases path with
  | nil => exact absurd rfl more
  | cons next path => exact String.intercalate_cons_cons

/-- The parts of a text, joined, are the text. -/
theorem intercalate_splitChars (text : String) :
    ":".intercalate ((splitChars idSeparator text.toList).map String.ofList) = text := by
  have kept : String.toList ∘ String.ofList = id := funext fun _ => String.toList_ofList
  apply String.ext
  rw [String.toList_intercalate, List.map_map, kept, List.map_id, splitChars_eq_splitOn]
  exact List.intercalate_splitOn idSeparator

/-- The parts of a joined path are the path. -/
theorem splitChars_intercalate {path : List String} (valid : ∀ id ∈ path, ValidId id) (more : path ≠ []) :
    (splitChars idSeparator (":".intercalate path).toList).map String.ofList = path := by
  have apart : ∀ part ∈ path.map String.toList, idSeparator ∉ part := by
    intro part listed
    obtain ⟨id, member, rfl⟩ := List.mem_map.1 listed
    exact (valid id member).2
  have parts : ((":".intercalate path).toList).splitOn idSeparator = path.map String.toList := by
    rw [String.toList_intercalate]
    exact List.splitOn_intercalate idSeparator apart (by simpa using more)
  rw [splitChars_eq_splitOn, parts, List.map_map]
  simp [Function.comp_def]

/-! ## Nodes that are built -/

namespace Built

variable {arena : Arena} {parent : Option String} {enclosing : ScopeId} {definitions : List NodeDefinition}
  {nodes : List Node} {node : Node} {path : List String}

/-- What a node that is built says of itself, and that what is in it is built. -/
theorem of_mem (h : Built arena parent enclosing definitions nodes) (member : node ∈ nodes) :
    ValidId node.header.id ∧ node.header.uniqueId = uniqueId parent node.header.id ∧
      ∃ own inner, Built arena (some node.header.uniqueId) own inner node.children := by
  induction h with
  | done => cases member
  | @plain _ enclosing _ _ _ _ _ _ _ _ valid fresh bare rest ih =>
    rcases List.mem_cons.1 member with rfl | beside
    · exact ⟨valid, rfl, enclosing, [], .done⟩
    · exact ih beside
  | composite valid fresh found newer within joined rest ihWithin ihRest =>
    rcases List.mem_cons.1 member with rfl | beside
    · exact ⟨valid, rfl, _, _, within⟩
    · exact ihRest beside

/-- The ids on a path are valid. -/
theorem valid_of_atPath (stands : Node.AtPath nodes path node) :
    ∀ {parent enclosing definitions}, Built arena parent enclosing definitions nodes → ∀ id ∈ path, ValidId id := by
  induction stands with
  | here member =>
    intro parent enclosing definitions built id listed
    rw [List.mem_singleton.1 listed]
    exact (built.of_mem member).1
  | inside member within ih =>
    intro parent enclosing definitions built id listed
    obtain ⟨valid, _, own, inner, inside⟩ := built.of_mem member
    rcases List.mem_cons.1 listed with rfl | deeper
    · exact valid
    · exact ih inside id deeper

/-- **The unique id of a node is the path to it**, behind that of the node around. -/
theorem uniqueId_of_atPath (stands : Node.AtPath nodes path node) :
    ∀ {parent enclosing definitions}, Built arena parent enclosing definitions nodes →
      node.header.uniqueId = uniqueId parent (":".intercalate path) := by
  induction stands with
  | here member =>
    intro parent enclosing definitions built
    rw [(built.of_mem member).2.1]
    simp
  | inside member within ih =>
    intro parent enclosing definitions built
    obtain ⟨_, unique, own, inner, inside⟩ := built.of_mem member
    rw [ih inside, unique, uniqueId_uniqueId, intercalate_cons _ within.ne_nil]

/-- Among nodes that are built the first with an id is the only one. -/
theorem find?_id_eq_some_iff (h : Built arena parent enclosing definitions nodes) {id : String} :
    nodes.find? (fun node => node.header.id == id) = some node ↔ node ∈ nodes ∧ node.header.id = id := by
  have distinct : (nodes.map (·.header.id)).Nodup := h.ids_eq ▸ h.nodup_ids
  constructor
  · intro found
    exact ⟨List.mem_of_find?_eq_some found, by simpa using List.find?_some found⟩
  · rintro ⟨member, rfl⟩
    cases found : nodes.find? (fun other => other.header.id == node.header.id) with
    | none => simpa using List.find?_eq_none.1 found node member
    | some other =>
      have same : other.header.id = node.header.id := by simpa using List.find?_some found
      rw [List.inj_on_of_nodup_map distinct (List.mem_of_find?_eq_some found) member same]

/-- **A path of ids is followed to the node at its end.** -/
theorem findPath?_eq_some_iff : ∀ {path : List String} {parent enclosing definitions nodes},
    Built arena parent enclosing definitions nodes →
      (Node.findPath? nodes path = some node ↔ Node.AtPath nodes path node) := by
  intro path
  induction path with
  | nil =>
    intro parent enclosing definitions nodes _
    exact ⟨nofun, fun stands => absurd rfl stands.ne_nil⟩
  | cons id rest ih =>
    intro parent enclosing definitions nodes built
    rw [Node.findPath?]
    constructor
    · intro followed
      split at followed
      · cases followed
      next outer found =>
        obtain ⟨member, rfl⟩ := built.find?_id_eq_some_iff.1 found
        obtain ⟨_, _, own, inner, inside⟩ := built.of_mem member
        cases rest with
        | nil =>
          cases followed
          exact .here member
        | cons next rest => exact .inside member ((ih inside).1 followed)
    · intro stands
      cases stands with
      | here member => simp [built.find?_id_eq_some_iff.2 ⟨member, rfl⟩]
      | inside member within =>
        obtain ⟨_, _, own, inner, inside⟩ := built.of_mem member
        have more : rest.isEmpty = false := by simpa using within.ne_nil
        simp [built.find?_id_eq_some_iff.2 ⟨member, rfl⟩, more, (ih inside).2 within]

end Built

/-- **A node is found by its unique id, and by no other text.** Unique ids are the ids on the path from the root to the
node, joined by the separator, and distinct; what is no unique id finds nothing. -/
theorem find?_of_ofDefinition {d : ProcessDefinition} {graph : ProcessGraph}
    (accepted : ProcessGraph.ofDefinition d = .ok graph) :
    (∀ node ∈ Node.flattenAll graph.nodes, ∃ path, Node.AtPath graph.nodes path node) ∧
      (∀ path node, Node.AtPath graph.nodes path node → node.header.uniqueId = ":".intercalate path) ∧
      (Node.uniqueIds graph.nodes).Nodup ∧
      (∀ unique node, graph.find? unique = some node ↔
        node ∈ Node.flattenAll graph.nodes ∧ node.header.uniqueId = unique) ∧
      ∀ unique, graph.find? unique = none ↔ unique ∉ Node.uniqueIds graph.nodes := by
  obtain ⟨_, _, _, built⟩ := built_of_ofDefinition accepted
  have found : ∀ unique node, graph.find? unique = some node ↔
      node ∈ Node.flattenAll graph.nodes ∧ node.header.uniqueId = unique := by
    intro unique node
    rw [ProcessGraph.find?, built.findPath?_eq_some_iff]
    constructor
    · intro stands
      refine ⟨stands.mem_flattenAll, ?_⟩
      exact (Built.uniqueId_of_atPath stands built).trans (intercalate_splitChars unique)
    · rintro ⟨member, rfl⟩
      obtain ⟨path, stands⟩ := Node.AtPath.exists_of_mem_flattenAll member
      rw [Built.uniqueId_of_atPath stands built]
      exact (splitChars_intercalate (Built.valid_of_atPath stands built) stands.ne_nil).symm ▸ stands
  refine ⟨fun node member => Node.AtPath.exists_of_mem_flattenAll member,
    fun path node stands => Built.uniqueId_of_atPath stands built, built.nodup_uniqueIds, found, fun unique => ?_⟩
  simp only [Option.eq_none_iff_forall_ne_some, ne_eq, found, Node.uniqueIds, List.mem_map, not_exists, not_and]

/-- A process with nodes at two depths. -/
def shelvedDefinition : ProcessDefinition where
  id := "orders"
  name := none
  version := none
  declarations := .empty
  nodes := [
    ⟨"A", "start", none, .empty, none, none, []⟩,
    ⟨"B", "sub", none, .empty, none,
      some [⟨"A", "start", none, .empty, none, none, []⟩, ⟨"D", "sub", none, .empty, none, some [], []⟩], []⟩]
  connections := []

theorem find?_of_ofDefinition_shelved : ∃ graph, ProcessGraph.ofDefinition shelvedDefinition = .ok graph ∧
    (∃ node, graph.find? "B:A" = some node ∧ node.header.uniqueId = "B:A") ∧
      ∀ unique ∈ ["", ":", ":A", "A:", "B::A", "A:A", "B:D:A"], graph.find? unique = none := by
  have outcome : (ProcessGraph.ofDefinition shelvedDefinition).toOption.map (fun graph => Node.uniqueIds graph.nodes) =
      some ["A", "B", "B:A", "B:D"] := by decide +kernel
  obtain ⟨graph, built, ids⟩ := Option.map_eq_some_iff.1 outcome
  have accepted := Except.toOption_eq_some_iff.1 built
  obtain ⟨_, _, _, found, absent⟩ := find?_of_ofDefinition accepted
  refine ⟨graph, accepted, ?_, fun unique listed => (absent unique).2 ?_⟩
  · obtain ⟨node, member, unique⟩ : ∃ node ∈ Node.flattenAll graph.nodes, node.header.uniqueId = "B:A" :=
      List.mem_map.1 (show "B:A" ∈ Node.uniqueIds graph.nodes by rw [ids]; decide)
    exact ⟨node, (found _ _).2 ⟨member, unique⟩, unique⟩
  · rw [ids]
    revert unique
    decide

end ProcessCompiler
