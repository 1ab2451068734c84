import Mathlib.Data.List.Nodup
import ProcessCompiler.Proofs.Construction

/-!
# Unique ids

The unique id of a node continues that of each node around it. Ids have no separator in them, so two nodes side by side
never have a continuation in common, and every node of a graph has a unique id of its own.

* `Continues u v`: the unique id `v` is `u`, or goes on behind it.
* `Built.nodup_uniqueIds`: the unique ids of a graph that was built are distinct.
-/

namespace ProcessCompiler

/-! ## Continuations -/

/-- A unique id is another one, or goes on behind it. -/
def Continues (u v : String) : Prop := v = u ∨ ∃ tail, v = uniqueId (some u) tail

/-- What comes before the first separator. -/
def firstId (unique : String) : List Char := unique.toList.takeWhile (· ≠ idSeparator)

theorem uniqueId_uniqueId (parent : Option String) (id tail : String) :
    uniqueId (some (uniqueId parent id)) tail = uniqueId parent (uniqueId (some id) tail) := by
  cases parent with
  | none => rfl
  | some u => simp only [uniqueId, String.append_assoc]

theorem uniqueId_inj {parent : Option String} {u v : String} (h : uniqueId parent u = uniqueId parent v) : u = v := by
  cases parent with
  | none => exact h
  | some p =>
    have chars := congrArg String.toList h
    simp only [uniqueId, String.toList_append] at chars
    exact String.ext (List.append_cancel_left chars)

/-- What goes on behind a unique id is longer. -/
theorem uniqueId_ne (u tail : String) : uniqueId (some u) tail ≠ u := by
  intro same
  have := congrArg String.length same
  simp only [uniqueId, String.length_append, String.length_ofList, List.length_singleton] at this
  omega

/-- A node inside another one goes on behind it. -/
theorem uniqueId_of_continues {u id v : String} (h : Continues (uniqueId (some u) id) v) :
    ∃ tail, v = uniqueId (some u) tail := by
  obtain rfl | ⟨tail, rfl⟩ := h
  · exact ⟨id, rfl⟩
  · exact ⟨_, uniqueId_uniqueId _ _ _⟩

/-- The first id of a continuation is the id that it continues. -/
theorem firstId_of_continues {id v : String} (valid : ValidId id) (h : Continues id v) : firstId v = id.toList := by
  have whole : ∀ c ∈ id.toList, decide (c ≠ idSeparator) = true := by
    intro c member
    exact decide_eq_true fun same => valid.2 (same ▸ member)
  obtain ⟨rest, chars, apart⟩ : ∃ rest, v.toList = id.toList ++ rest ∧ rest.takeWhile (· ≠ idSeparator) = [] := by
    obtain rfl | ⟨tail, rfl⟩ := h
    · exact ⟨[], by simp, rfl⟩
    · exact ⟨idSeparator :: tail.toList, by simp [uniqueId], by simp⟩
  rw [firstId, chars, List.takeWhile_append_of_pos whole, apart, List.append_nil]

/-- Unique ids with a continuation in common end in the same id. -/
theorem id_eq_of_continues {parent : Option String} {a b v : String} (validA : ValidId a) (validB : ValidId b)
    (ha : Continues (uniqueId parent a) v) (hb : Continues (uniqueId parent b) v) : a = b := by
  have below : ∀ {id}, Continues (uniqueId parent id) v → ∃ w, v = uniqueId parent w ∧ Continues id w := by
    rintro id (rfl | ⟨tail, rfl⟩)
    · exact ⟨id, rfl, .inl rfl⟩
    · exact ⟨_, uniqueId_uniqueId _ _ _, .inr ⟨tail, rfl⟩⟩
  obtain ⟨w, same, inA⟩ := below ha
  obtain ⟨w', same', inB⟩ := below hb
  obtain rfl := uniqueId_inj (same.symm.trans same')
  exact String.ext ((firstId_of_continues validA inA).symm.trans (firstId_of_continues validB inB))

/-! ## The nodes of a graph -/

theorem Node.mem_flattenAll_self (node : Node) (nodes : List Node) : node ∈ Node.flattenAll (node :: nodes) := by
  rw [flattenAll]
  cases node <;> simp [flatten]

theorem Node.flattenAll_subset (node : Node) (nodes : List Node) :
    Node.flattenAll nodes ⊆ Node.flattenAll (node :: nodes) := by
  intro other member
  rw [flattenAll]
  exact List.mem_append_right _ member

theorem Node.flattenAll_children_subset (header : NodeHeader) (own : ScopeId) (children nodes : List Node)
    (connections : List Connection) :
    Node.flattenAll children ⊆ Node.flattenAll (.composite header own children connections :: nodes) := by
  intro node member
  rw [flattenAll, flatten]
  exact List.mem_append_left _ (List.mem_cons_of_mem _ member)

/-- The unique ids of nodes and of all nodes in them. -/
def Node.uniqueIds (nodes : List Node) : List String := (Node.flattenAll nodes).map (·.header.uniqueId)

@[simp] theorem Node.uniqueIds_nil : Node.uniqueIds [] = [] := rfl

@[simp] theorem Node.uniqueIds_plain (header : NodeHeader) (nodes : List Node) :
    Node.uniqueIds (.plain header :: nodes) = header.uniqueId :: Node.uniqueIds nodes := rfl

@[simp] theorem Node.uniqueIds_composite (header : NodeHeader) (own : ScopeId) (children nodes : List Node)
    (connections : List Connection) :
    Node.uniqueIds (.composite header own children connections :: nodes) =
      header.uniqueId :: (Node.uniqueIds children ++ Node.uniqueIds nodes) := by
  simp only [uniqueIds, flattenAll, flatten, List.cons_append, List.map_cons, List.map_append]
  rfl

/-- Nodes with one unique id are one node, if unique ids are distinct. -/
theorem Node.eq_of_uniqueId_eq {nodes : List Node} (distinct : (Node.uniqueIds nodes).Nodup) {node other : Node}
    (member : node ∈ Node.flattenAll nodes) (member' : other ∈ Node.flattenAll nodes)
    (same : node.header.uniqueId = other.header.uniqueId) : node = other :=
  List.inj_on_of_nodup_map distinct member member' same

namespace Built

variable {arena : Arena} {parent : Option String} {enclosing : ScopeId} {definitions : List NodeDefinition}
  {nodes : List Node}

/-- Nodes that are built have valid ids. -/
theorem valid (h : Built arena parent enclosing definitions nodes) :
    ∀ id ∈ definitions.map NodeDefinition.id, ValidId id := by
  induction h with
  | done => simp
  | plain valid fresh bare rest ih => simpa using ⟨valid, by simpa using ih⟩
  | composite valid fresh found newer within joined rest ihWithin ihRest => simpa using ⟨valid, by simpa using ihRest⟩

/-- The unique id of every node continues that of a node at the top. -/
theorem continues (h : Built arena parent enclosing definitions nodes) :
    ∀ u ∈ Node.uniqueIds nodes, ∃ id ∈ definitions.map NodeDefinition.id, Continues (uniqueId parent id) u := by
  induction h with
  | done => simp
  | plain valid fresh bare rest ih =>
    intro u member
    rw [Node.uniqueIds_plain] at member
    rcases List.mem_cons.1 member with rfl | member
    · exact ⟨_, List.mem_cons_self, .inl rfl⟩
    · obtain ⟨id, listed, continues⟩ := ih u member
      exact ⟨id, List.mem_cons_of_mem _ listed, continues⟩
  | composite valid fresh found newer within joined rest ihWithin ihRest =>
    intro u member
    rw [Node.uniqueIds_composite] at member
    rcases List.mem_cons.1 member with rfl | member
    · exact ⟨_, List.mem_cons_self, .inl rfl⟩
    rcases List.mem_append.1 member with member | member
    · obtain ⟨id, listed, continues⟩ := ihWithin u member
      exact ⟨_, List.mem_cons_self, .inr (uniqueId_of_continues continues)⟩
    · obtain ⟨id, listed, continues⟩ := ihRest u member
      exact ⟨id, List.mem_cons_of_mem _ listed, continues⟩

/-- Nodes inside another one go on behind it. -/
theorem goes_on {u : String} (h : Built arena (some u) enclosing definitions nodes) :
    ∀ v ∈ Node.uniqueIds nodes, ∃ tail, v = uniqueId (some u) tail := by
  intro v member
  obtain ⟨id, listed, continues⟩ := h.continues v member
  exact uniqueId_of_continues continues

/-- Nodes beside another one do not continue it. -/
theorem not_continues (h : Built arena parent enclosing definitions nodes) {id : String} (valid : ValidId id)
    (fresh : id ∉ definitions.map NodeDefinition.id) :
    ∀ u ∈ Node.uniqueIds nodes, ¬ Continues (uniqueId parent id) u := by
  intro u member continues
  obtain ⟨other, listed, continues'⟩ := h.continues u member
  rw [id_eq_of_continues valid (h.valid other listed) continues continues'] at fresh
  exact fresh listed

/-- **The unique ids of nodes that are built are distinct**, at all depths. -/
theorem nodup_uniqueIds (h : Built arena parent enclosing definitions nodes) : (Node.uniqueIds nodes).Nodup := by
  induction h with
  | done => exact List.nodup_nil
  | plain valid fresh bare rest ih =>
    rw [Node.uniqueIds_plain]
    exact List.nodup_cons.2 ⟨fun member => rest.not_continues valid fresh _ member (.inl rfl), ih⟩
  | composite valid fresh found newer within joined rest ihWithin ihRest =>
    rw [Node.uniqueIds_composite]
    refine List.nodup_cons.2 ⟨fun member => ?_, List.nodup_append.2 ⟨ihWithin, ihRest, ?_⟩⟩
    · rcases List.mem_append.1 member with member | member
      · obtain ⟨tail, same⟩ := within.goes_on _ member
        exact uniqueId_ne _ _ same.symm
      · exact rest.not_continues valid fresh _ member (.inl rfl)
    · rintro u inside v beside rfl
      exact rest.not_continues valid fresh u beside (.inr (within.goes_on u inside))

end Built

end ProcessCompiler
