import ProcessCompiler.Proofs.UniqueIds
import ProcessCompiler.Proofs.Visits

/-!
# The nodes around a node

A node of a graph is reached from the top through the nodes around it. A walk comes to the node exactly if it enters all
of these and knows the type of the node itself.

* `Node.Within`: a node at any depth, with the nodes around it.
* `mem_visitsAll_iff`: the nodes that a walk comes to.
* `Within.around_eq_of_uniqueId_eq`: a unique id tells what is around its node.
-/

namespace ProcessCompiler

/-! ## Paths -/

/-- **A node at any depth among nodes**, with the nodes around it, the nearest first. The nodes looked at are themselves
inside the nodes `above`. -/
inductive Node.Within : List Node → List Node → List Node → Node → Prop
  | here {above nodes : List Node} {node : Node} (member : node ∈ nodes) : Within above nodes above node
  | inside {above nodes around : List Node} {outer node : Node} (member : outer ∈ nodes)
      (within : Within (outer :: above) outer.children around node) : Within above nodes around node

/-- A node of a graph at any depth, with the nodes around it. -/
def ProcessGraph.Within (graph : ProcessGraph) (around : List Node) (node : Node) : Prop :=
  Node.Within [] graph.nodes around node

namespace Node.Within

variable {above nodes around more : List Node} {node first : Node}

theorem mono (h : Within above nodes around node) (sub : nodes ⊆ more) : Within above more around node := by
  cases h with
  | here member => exact .here (sub member)
  | inside member within => exact .inside (sub member) within

/-- What is around the nodes looked at is around each node in them. -/
theorem above_subset (h : Within above nodes around node) : above ⊆ around := by
  induction h with
  | here member => exact List.Subset.refl _
  | inside member within ih => exact fun outer listed => ih (List.mem_cons_of_mem _ listed)

/-- A node is the first of the nodes, or in it, or among the others. -/
theorem of_cons (h : Within above (first :: nodes) around node) :
    (around = above ∧ node = first) ∨ Within (first :: above) first.children around node ∨
      Within above nodes around node := by
  cases h with
  | here member =>
    rcases List.mem_cons.1 member with rfl | member
    · exact .inl ⟨rfl, rfl⟩
    · exact .inr (.inr (.here member))
  | inside member within =>
    rcases List.mem_cons.1 member with rfl | member
    · exact .inr (.inl within)
    · exact .inr (.inr (.inside member within))

theorem not_nil (h : Within above [] around node) : False := by
  cases h with
  | here member => cases member
  | inside member within => cases member

/-- The nodes around a node end in those around what is looked at. -/
theorem above_suffix (h : Within above nodes around node) : above <:+ around := by
  induction h with
  | here member => exact List.suffix_refl _
  | inside member within ih => exact (List.suffix_cons _ _).trans ih

/-- What is around a node is itself among the nodes, inside what is around it. -/
theorem of_around (h : Within above nodes around node) {between rest : List Node} {outer : Node}
    (split : around = between ++ outer :: rest) (longer : above.length ≤ rest.length) :
    Within above nodes rest outer := by
  induction h with
  | here member =>
    have := congrArg List.length split
    simp only [List.length_append, List.length_cons] at this
    omega
  | @inside above nodes around first node member within ih =>
    by_cases deeper : (first :: above).length ≤ rest.length
    · exact .inside member (ih split deeper)
    · have suffix : outer :: rest <:+ around := ⟨between, split.symm⟩
      have same : (outer :: rest).length = (first :: above).length := by
        simp only [List.length_cons] at deeper ⊢
        omega
      have equal := (List.suffix_of_suffix_length_le suffix within.above_suffix (Nat.le_of_eq same)).eq_of_length same
      obtain ⟨rfl, rfl⟩ := List.cons.inj equal
      exact .here member

/-- Either all nodes around a node have a property, or there is an outermost one that has not. -/
theorem outermost {P : Node → Prop} (h : Within above nodes around node) (all : ∀ outer ∈ above, P outer) :
    (∀ outer ∈ around, P outer) ∨ ∃ outer ∈ around, ¬ P outer ∧
      ∃ around', Within above nodes around' outer ∧ ∀ further ∈ around', P further := by
  induction h with
  | here member => exact .inl all
  | @inside above nodes around first node member within ih =>
    by_cases has : P first
    · have more : ∀ outer ∈ first :: above, P outer := by
        intro outer listed
        rcases List.mem_cons.1 listed with rfl | listed
        · exact has
        · exact all outer listed
      rcases ih more with every | ⟨outer, listed, fails, around', inner, further⟩
      · exact .inl every
      · exact .inr ⟨outer, listed, fails, around', .inside member inner, further⟩
    · exact .inr ⟨first, within.above_subset List.mem_cons_self, has, above, .here member, all⟩

end Node.Within

/-! ## Unique ids -/

namespace Node

variable {nodes : List Node} {node other outer outer' : Node}

theorem flatten_eq (node : Node) : node.flatten = node :: flattenAll node.children := by
  cases node <;> rfl

theorem mem_flatten_self (node : Node) : node ∈ node.flatten := flatten_eq node ▸ List.mem_cons_self

theorem mem_flatten_of_inside (inside : node ∈ flattenAll outer.children) : node ∈ outer.flatten :=
  flatten_eq outer ▸ List.mem_cons_of_mem _ inside

theorem flatten_sublist (member : node ∈ nodes) : node.flatten.Sublist (flattenAll nodes) := by
  induction nodes with
  | nil => cases member
  | cons first nodes ih =>
    rw [flattenAll]
    rcases List.mem_cons.1 member with rfl | member
    · exact List.sublist_append_left _ _
    · exact (ih member).trans (List.sublist_append_right _ _)

theorem subset_flattenAll (nodes : List Node) : nodes ⊆ flattenAll nodes :=
  fun node member => (flatten_sublist member).subset (mem_flatten_self node)

/-- What is in a node, at any depth, is among the nodes that it is among. -/
theorem flattenAll_children_subset_of_mem {nodes : List Node} (member : node ∈ flattenAll nodes) :
    flattenAll node.children ⊆ flattenAll nodes := by
  match nodes with
  | .plain header :: nodes =>
    rcases List.mem_cons.1 member with rfl | beside
    · exact List.nil_subset _
    · exact List.Subset.trans (flattenAll_children_subset_of_mem beside) (flattenAll_subset _ _)
  | .composite header own children connections :: nodes =>
    rw [flattenAll, flatten, List.cons_append, List.mem_cons, List.mem_append] at member
    rcases member with rfl | inside | beside
    · exact flattenAll_children_subset header own children nodes connections
    · exact List.Subset.trans (flattenAll_children_subset_of_mem inside) (flattenAll_children_subset _ _ _ _ _)
    · exact List.Subset.trans (flattenAll_children_subset_of_mem beside) (flattenAll_subset _ _)

/-- The unique ids of a node and of the nodes in it are distinct if those of more nodes are. -/
theorem nodup_uniqueIds_of_mem (distinct : (uniqueIds nodes).Nodup) (member : node ∈ nodes) :
    (node.header.uniqueId :: uniqueIds node.children).Nodup := by
  have inner := distinct.sublist ((flatten_sublist member).map _)
  rw [flatten_eq] at inner
  exact inner

/-- Nodes side by side have no unique id in common, at any depth. -/
theorem eq_of_mem_flatten (distinct : (uniqueIds nodes).Nodup) (member : outer ∈ nodes) (member' : outer' ∈ nodes)
    (inside : node ∈ outer.flatten) (inside' : other ∈ outer'.flatten)
    (same : node.header.uniqueId = other.header.uniqueId) : outer = outer' := by
  induction nodes with
  | nil => cases member
  | cons first nodes ih =>
    rw [uniqueIds, flattenAll, List.map_append] at distinct
    obtain ⟨_, rest, apart⟩ := List.nodup_append.1 distinct
    rcases List.mem_cons.1 member with rfl | later <;> rcases List.mem_cons.1 member' with rfl | later'
    · rfl
    · have beside := (flatten_sublist later').subset inside'
      exact absurd same (apart _ (List.mem_map_of_mem inside) _ (List.mem_map_of_mem beside))
    · have beside := (flatten_sublist later).subset inside
      exact absurd same.symm (apart _ (List.mem_map_of_mem inside') _ (List.mem_map_of_mem beside))
    · exact ih rest later later'

end Node

namespace Node.Within

variable {above nodes around around' : List Node} {node node' : Node}

theorem mem_flattenAll (h : Within above nodes around node) : node ∈ Node.flattenAll nodes := by
  induction h with
  | here member => exact Node.subset_flattenAll _ member
  | inside member within ih => exact Node.flattenAll_children_subset_of_mem (Node.subset_flattenAll _ member) ih

/-- **A unique id tells what is around its node.** -/
theorem around_eq_of_uniqueId_eq (distinct : (Node.uniqueIds nodes).Nodup) (h : Within above nodes around node)
    (h' : Within above nodes around' node') (same : node.header.uniqueId = node'.header.uniqueId) :
    around = around' := by
  -- A node at the top is not also inside another one, as unique ids are distinct.
  have top : ∀ {nodes : List Node} {outer inner : Node}, (Node.uniqueIds nodes).Nodup → outer ∈ nodes →
      inner ∈ Node.flattenAll outer.children → inner.header.uniqueId ≠ outer.header.uniqueId := by
    intro nodes outer inner distinct member inside equal
    have own := Node.nodup_uniqueIds_of_mem distinct member
    exact (List.nodup_cons.1 own).1 (List.mem_map.2 ⟨inner, inside, equal⟩)
  induction h with
  | here member =>
    cases h' with
    | here member' => rfl
    | inside member' within' =>
      obtain rfl := Node.eq_of_mem_flatten distinct member member' (Node.mem_flatten_self _)
        (Node.mem_flatten_of_inside within'.mem_flattenAll) same
      exact absurd same.symm (top distinct member within'.mem_flattenAll)
  | inside member within ih =>
    cases h' with
    | here member' =>
      obtain rfl := Node.eq_of_mem_flatten distinct member member' (Node.mem_flatten_of_inside within.mem_flattenAll)
        (Node.mem_flatten_self _) same
      exact absurd same (top distinct member within.mem_flattenAll)
    | inside member' within' =>
      obtain rfl := Node.eq_of_mem_flatten distinct member member' (Node.mem_flatten_of_inside within.mem_flattenAll)
        (Node.mem_flatten_of_inside within'.mem_flattenAll) same
      exact ih (List.nodup_cons.1 (Node.nodup_uniqueIds_of_mem distinct member)).2 within' same

end Node.Within

/-! ## What a walk comes to -/

/-- Whether a walk goes into a node, by its type. -/
def Registry.Enters (registry : Registry) (node : Node) : Prop :=
  ∃ generator, registry.find? node.header.type = some generator ∧ generator.opens = true

theorem Registry.closed_of_not_enters {registry : Registry} {node : Node} (shut : ¬ registry.Enters node) :
    ∀ generator, registry.find? node.header.type = some generator → generator.opens = false := by
  intro generator known
  cases opens : generator.opens with
  | false => rfl
  | true => exact absurd ⟨generator, known, opens⟩ shut

/-- The scope of the graph that a node belongs to, by what is around the node. -/
def Node.scopeInside : List Node → ScopeId
  | [] => ProcessGraph.rootScope
  | outer :: _ => outer.scope?.getD ProcessGraph.rootScope

section Visits

variable {registry : Registry} {scope : ScopeId} {above nodes : List Node} {node : Node} {v : Visit}

theorem Node.visits_of_opens {generator : Generator} (known : registry.find? node.header.type = some generator)
    (opens : generator.opens = true) : node.visits registry scope =
      ⟨generator, scope, node⟩ :: Node.visitsAll registry (Node.scopeInside [node]) node.children := by
  cases node with
  | plain header => exact Node.visits_plain known
  | composite header own children connections => exact Node.visits_composite known opens

/-- A walk comes to a node itself, and to what is in it if the node is entered. -/
theorem Node.mem_visits_iff : v ∈ node.visits registry scope ↔
    (v.node = node ∧ v.scope = scope ∧ registry.find? node.header.type = some v.generator) ∨
      registry.Enters node ∧ v ∈ Node.visitsAll registry (Node.scopeInside [node]) node.children := by
  cases known : registry.find? node.header.type with
  | none => simp [Node.visits_of_unknown known, Registry.Enters, known]
  | some generator =>
    have itself : v = ⟨generator, scope, node⟩ ↔
        v.node = node ∧ v.scope = scope ∧ some generator = some v.generator := by
      obtain ⟨generator', scope', node'⟩ := v
      rw [Visit.mk.injEq, Option.some.injEq, eq_comm (a := generator), and_comm, and_assoc]
      tauto
    cases opens : generator.opens with
    | false =>
      have closed : ¬ registry.Enters node := by simp [Registry.Enters, known, opens]
      rw [Node.visits_of_closed known opens, List.mem_singleton, itself, or_iff_left (fun inside => closed inside.1)]
    | true =>
      have entered : registry.Enters node := ⟨generator, known, opens⟩
      rw [Node.visits_of_opens known opens, List.mem_cons, itself, and_iff_right entered]

theorem Node.mem_visitsAll : v ∈ Node.visitsAll registry scope nodes ↔
    ∃ node ∈ nodes, v ∈ node.visits registry scope := by
  induction nodes with
  | nil => simp [Node.visitsAll]
  | cons node nodes ih => rw [Node.visitsAll, List.mem_append, ih, List.exists_mem_cons_iff]

theorem Node.mem_visitsAll_plain {header : NodeHeader} : v ∈ Node.visitsAll registry scope (.plain header :: nodes) ↔
    (v.node = .plain header ∧ v.scope = scope ∧ registry.find? header.type = some v.generator) ∨
      v ∈ Node.visitsAll registry scope nodes := by
  rw [Node.visitsAll, List.mem_append, Node.mem_visits_iff]
  exact or_congr_left (or_iff_left fun inside => nomatch inside.2)

theorem Node.mem_visitsAll_composite {header : NodeHeader} {own : ScopeId} {children : List Node}
    {connections : List Connection} :
    v ∈ Node.visitsAll registry scope (.composite header own children connections :: nodes) ↔
      (v.node = .composite header own children connections ∧ v.scope = scope ∧
        registry.find? header.type = some v.generator) ∨
      (registry.Enters (.composite header own children connections) ∧ v ∈ Node.visitsAll registry own children) ∨
        v ∈ Node.visitsAll registry scope nodes := by
  rw [Node.visitsAll, List.mem_append, Node.mem_visits_iff, or_assoc]
  rfl

/-- Nodes among those that a walk comes to are inside nodes that it enters. -/
theorem Node.mem_visitsAll_of_within {around : List Node} (h : Node.Within above nodes around node)
    (entered : ∀ outer ∈ around, registry.Enters outer) (same : v.node = node)
    (inside : v.scope = Node.scopeInside around) (known : registry.find? node.header.type = some v.generator) :
    v ∈ Node.visitsAll registry (Node.scopeInside above) nodes := by
  induction h with
  | here member => exact Node.mem_visitsAll.2 ⟨_, member, Node.mem_visits_iff.2 (.inl ⟨same, inside, known⟩)⟩
  | inside member within ih =>
    have enters := entered _ (within.above_subset List.mem_cons_self)
    exact Node.mem_visitsAll.2 ⟨_, member, Node.mem_visits_iff.2 (.inr ⟨enters, ih entered same inside known⟩)⟩

mutual

theorem Node.exists_within_of_mem_visits {node : Node} {above nodes : List Node} (member : node ∈ nodes)
    (entered : ∀ outer ∈ above, registry.Enters outer) (h : v ∈ node.visits registry (Node.scopeInside above)) :
    ∃ around, Node.Within above nodes around v.node ∧ (∀ outer ∈ around, registry.Enters outer) ∧
      v.scope = Node.scopeInside around ∧ registry.find? v.node.header.type = some v.generator := by
  rcases Node.mem_visits_iff.1 h with ⟨same, inside, known⟩ | ⟨enters, deeper⟩
  · exact ⟨above, .here (same ▸ member), entered, inside, same ▸ known⟩
  match node with
  | .plain header => cases deeper
  | .composite header own children connections =>
    have further : ∀ outer ∈ Node.composite header own children connections :: above, registry.Enters outer := by
      intro outer listed
      rcases List.mem_cons.1 listed with rfl | listed
      · exact enters
      · exact entered outer listed
    obtain ⟨around, within, rest⟩ := Node.exists_within_of_mem_visitsAll (List.Subset.refl _) further deeper
    exact ⟨around, .inside member within, rest⟩

/-- The nodes that a walk comes to are inside nodes that it enters. -/
theorem Node.exists_within_of_mem_visitsAll {nodes above more : List Node} (sub : nodes ⊆ more)
    (entered : ∀ outer ∈ above, registry.Enters outer)
    (h : v ∈ Node.visitsAll registry (Node.scopeInside above) nodes) :
    ∃ around, Node.Within above more around v.node ∧ (∀ outer ∈ around, registry.Enters outer) ∧
      v.scope = Node.scopeInside around ∧ registry.find? v.node.header.type = some v.generator := by
  match nodes with
  | [] => cases h
  | node :: nodes =>
    rw [Node.visitsAll, List.mem_append] at h
    rcases h with here | beside
    · exact Node.exists_within_of_mem_visits (sub List.mem_cons_self) entered here
    · exact Node.exists_within_of_mem_visitsAll (fun other member => sub (List.mem_cons_of_mem _ member)) entered beside

end

end Visits

mutual

theorem Node.visits_sublist {registry : Registry} {scope : ScopeId} {node : Node} :
    ((node.visits registry scope).map Visit.node).Sublist node.flatten := by
  match node with
  | .plain header =>
    rw [Node.visits]
    cases registry.find? header.type with
    | none => exact List.nil_sublist _
    | some generator => exact List.Sublist.refl _
  | .composite header own children connections =>
    rw [Node.visits]
    cases registry.find? header.type with
    | none => exact List.nil_sublist _
    | some generator =>
      refine List.Sublist.cons_cons _ ?_
      split
      · exact Node.visitsAll_sublist
      · exact List.nil_sublist _

/-- A walk comes to nodes in the order of the graph. -/
theorem Node.visitsAll_sublist {registry : Registry} {scope : ScopeId} {nodes : List Node} :
    ((Node.visitsAll registry scope nodes).map Visit.node).Sublist (Node.flattenAll nodes) := by
  match nodes with
  | [] => exact List.nil_sublist _
  | node :: nodes =>
    rw [Node.visitsAll, List.map_append, Node.flattenAll]
    exact Node.visits_sublist.append Node.visitsAll_sublist

end

/-- **A walk over a graph comes to the nodes of known type that are inside nodes which it enters.** -/
theorem ProcessGraph.mem_visits_iff {graph : ProcessGraph} {registry : Registry} {v : Visit} :
    v ∈ graph.visits registry ↔ ∃ around, graph.Within around v.node ∧ (∀ outer ∈ around, registry.Enters outer) ∧
      v.scope = Node.scopeInside around ∧ registry.find? v.node.header.type = some v.generator := by
  constructor
  · intro h
    exact Node.exists_within_of_mem_visitsAll (List.Subset.refl _) (by simp) h
  · rintro ⟨around, within, entered, inside, known⟩
    exact Node.mem_visitsAll_of_within within entered rfl inside known

/-- A walk with generators of built-in types comes to nodes of built-in types. -/
theorem Registry.UsesBuiltins.exists_type {registry : Registry} (uses : registry.UsesBuiltins) {graph : ProcessGraph}
    {v : Visit} (member : v ∈ graph.visits registry) : ∃ type : BuiltinType, v.generator = type.generator := by
  obtain ⟨around, _, _, _, known⟩ := ProcessGraph.mem_visits_iff.1 member
  exact uses _ _ known

end ProcessCompiler
