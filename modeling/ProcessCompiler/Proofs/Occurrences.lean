import ProcessCompiler.Proofs.UniqueIds

/-!
# The nodes of a definition

The nodes of a definition at all depths, each with its unique id and the composite nodes around it. In a definition that
is accepted a unique id tells which node it belongs to, and what is around that node.

* `NodeDefinition.Occurs`: a node of a definition, and where it stands.
* `Occurs.eq_of_accepted`: a unique id belongs to one node.
-/

namespace ProcessCompiler

/-- A composite node around other nodes, with the variables that it declares. -/
structure Enclosure where
  uniqueId : String
  declarations : SortedMap Variable

/-- **A node of a definition with a unique id**, and the composite nodes around it, the nearest first. The nodes looked
at are below a parent and inside the composite nodes `above`. -/
inductive NodeDefinition.Occurs : Option String → List Enclosure → List NodeDefinition →
    String → List Enclosure → NodeDefinition → Prop
  | here {parent : Option String} {above : List Enclosure} {definitions : List NodeDefinition}
      {definition : NodeDefinition} (member : definition ∈ definitions) :
      Occurs parent above definitions (uniqueId parent definition.id) above definition
  | inside {parent : Option String} {above around : List Enclosure} {definitions inner : List NodeDefinition}
      {outer definition : NodeDefinition} {unique : String} (member : outer ∈ definitions)
      (nested : outer.nodes = some inner)
      (within : Occurs (some (uniqueId parent outer.id))
        (⟨uniqueId parent outer.id, outer.declarations.getD .empty⟩ :: above) inner unique around definition) :
      Occurs parent above definitions unique around definition

/-- A node of the definition with a unique id, and the composite nodes around it, the nearest first. -/
def ProcessDefinition.Occurs (d : ProcessDefinition) (unique : String) (above : List Enclosure)
    (definition : NodeDefinition) : Prop :=
  NodeDefinition.Occurs none [] d.nodes unique above definition

namespace Built

variable {arena : Arena} {parent : Option String} {enclosing : ScopeId} {definitions inner : List NodeDefinition}
  {nodes : List Node} {definition other : NodeDefinition}

/-- Nodes side by side have distinct ids. -/
theorem nodup_ids (h : Built arena parent enclosing definitions nodes) :
    (definitions.map NodeDefinition.id).Nodup := by
  induction h with
  | done => exact List.nodup_nil
  | plain valid fresh bare rest ih => exact List.nodup_cons.2 ⟨fresh, ih⟩
  | composite valid fresh found newer within joined rest ihWithin ihRest => exact List.nodup_cons.2 ⟨fresh, ihRest⟩

/-- Nodes side by side are one node if a unique id continues both. -/
theorem eq_of_continues (h : Built arena parent enclosing definitions nodes) {unique : String}
    (member : definition ∈ definitions) (member' : other ∈ definitions)
    (continues : Continues (uniqueId parent definition.id) unique)
    (continues' : Continues (uniqueId parent other.id) unique) : definition = other := by
  have valid : ValidId definition.id := h.valid _ (List.mem_map_of_mem member)
  have valid' : ValidId other.id := h.valid _ (List.mem_map_of_mem member')
  have same : definition.id = other.id := id_eq_of_continues valid valid' continues continues'
  exact List.inj_on_of_nodup_map h.nodup_ids member member' same

/-- What is inside a node that is built is built. -/
theorem exists_inside (h : Built arena parent enclosing definitions nodes) (member : definition ∈ definitions)
    (nested : definition.nodes = some inner) :
    ∃ own children, Built arena (some (uniqueId parent definition.id)) own inner children := by
  induction h with
  | done => cases member
  | plain valid fresh bare rest ih =>
    rcases List.mem_cons.1 member with rfl | member
    · cases nested
    · exact ih member
  | composite valid fresh found newer within joined rest ihWithin ihRest =>
    rcases List.mem_cons.1 member with rfl | member
    · cases nested
      exact ⟨_, _, within⟩
    · exact ihRest member

end Built

namespace NodeDefinition.Occurs

variable {parent : Option String} {above around around' : List Enclosure} {definitions : List NodeDefinition}
  {unique : String} {first definition definition' : NodeDefinition}

/-- More nodes beside do not matter. -/
theorem mono {more : List NodeDefinition} (h : Occurs parent above definitions unique around definition)
    (sub : definitions ⊆ more) : Occurs parent above more unique around definition := by
  cases h with
  | here member => exact .here (sub member)
  | inside member nested within => exact .inside (sub member) nested within

theorem cons (h : Occurs parent above definitions unique around definition) :
    Occurs parent above (first :: definitions) unique around definition := h.mono (List.subset_cons_self _ _)

/-- The unique id of a node continues that of a node at the top. -/
theorem continues (h : Occurs parent above definitions unique around definition) :
    ∃ outer ∈ definitions, Continues (uniqueId parent outer.id) unique := by
  induction h with
  | here member => exact ⟨_, member, .inl rfl⟩
  | inside member nested within ih =>
    obtain ⟨outer, _, continues⟩ := ih
    exact ⟨_, member, .inr (uniqueId_of_continues continues)⟩

/-- The unique id of a node inside another one goes on behind it. -/
theorem goes_on {u : String} (h : Occurs (some u) above definitions unique around definition) :
    ∃ tail, unique = uniqueId (some u) tail := by
  obtain ⟨outer, _, continues⟩ := h.continues
  exact uniqueId_of_continues continues

/-- **A unique id belongs to one node**, if the nodes can be built: it tells the node and what is around it. -/
theorem eq_of_built {arena : Arena} {enclosing : ScopeId} {nodes : List Node}
    (built : Built arena parent enclosing definitions nodes)
    (h : Occurs parent above definitions unique around definition)
    (h' : Occurs parent above definitions unique around' definition') :
    around' = around ∧ definition' = definition := by
  induction h generalizing enclosing nodes with
  | @here parent above definitions definition member =>
    generalize same : uniqueId parent definition.id = unique at h'
    cases h' with
    | here member' => exact ⟨rfl, built.eq_of_continues member' member (.inl rfl) (.inl same.symm)⟩
    | inside member' nested within =>
      obtain ⟨tail, behind⟩ := within.goes_on
      obtain rfl := built.eq_of_continues member' member (.inr ⟨tail, behind⟩) (.inl same.symm)
      exact absurd (behind.symm.trans same.symm) (uniqueId_ne _ _)
  | inside member nested within ih =>
    obtain ⟨tail, behind⟩ := within.goes_on
    cases h' with
    | here member' =>
      obtain rfl := built.eq_of_continues member member' (.inr ⟨tail, behind⟩) (.inl rfl)
      exact absurd behind.symm (uniqueId_ne _ _)
    | inside member' nested' within' =>
      obtain ⟨tail', behind'⟩ := within'.goes_on
      obtain rfl := built.eq_of_continues member member' (.inr ⟨tail, behind⟩) (.inr ⟨tail', behind'⟩)
      obtain rfl := Option.some.inj (nested.symm.trans nested')
      obtain ⟨own, children, inside⟩ := built.exists_inside member nested
      exact ih inside within'

end NodeDefinition.Occurs

/-- In a definition that is accepted a unique id tells the node and what is around it. -/
theorem ProcessDefinition.Occurs.eq_of_accepted {d : ProcessDefinition} {graph : ProcessGraph}
    (accepted : ProcessGraph.ofDefinition d = .ok graph) {unique : String} {above above' : List Enclosure}
    {definition definition' : NodeDefinition} (h : d.Occurs unique above definition)
    (h' : d.Occurs unique above' definition') : above' = above ∧ definition' = definition := by
  obtain ⟨_, _, _, built⟩ := built_of_ofDefinition accepted
  exact NodeDefinition.Occurs.eq_of_built built h h'

end ProcessCompiler
