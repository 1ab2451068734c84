import ProcessCompiler.Proofs.Artifacts
import ProcessCompiler.Proofs.Handles

/-!
# The code of a node in a body

The position of a node is that of the first instruction that creates it, and its fragment is the code of all
instructions that belong to it. Both tell of one node because no unique id is used twice: one instruction creates the
node, and one closes it if it is composite.

* `exists_positions`: the positions of nodes are ascending in the order in which the nodes are created.
* `Walk.mem_closedIds_iff`: which nodes are closed.
* `Built.pairwise_behind`: what closes a node comes behind all that belongs to the nodes in it.
* `fragments_of_generate`: how the nodes that are created stand in the body, and that there is nothing else.
-/

namespace ProcessCompiler

/-! ## Instructions and the nodes they belong to -/

theorem Body.creates_iff {unique : String} {i : Instruction} : creates unique i = true ↔ i.nodeId? = some unique := by
  obtain ⟨kind, handle, code⟩ := i
  cases kind <;> simp [creates, Instruction.nodeId?]

/-- An instruction belongs to the node that it creates or closes. -/
theorem Body.belongsTo_iff {unique : String} {i : Instruction} :
    belongsTo unique i = true ↔ i.nodeId? = some unique ∨ i.closes? = some unique := by
  obtain ⟨kind, handle, code⟩ := i
  cases kind <;> simp [belongsTo, Instruction.nodeId?, Instruction.closes?]

theorem Instruction.closes?_eq_some_iff {i : Instruction} {unique : String} :
    i.closes? = some unique ↔ i.kind = .close unique := by
  obtain ⟨kind, handle, code⟩ := i
  cases kind <;> simp [closes?]

/-- An instruction that belongs to no node. -/
def Instruction.Silent (i : Instruction) : Prop := i.nodeId? = none ∧ i.closes? = none

section Enclosing

variable {options : Options} {handle : String} {declarations : SortedMap Variable} {connections : List Connection}
  {inside : List Instruction} {i : Instruction}

theorem silent_of_mem_declareVariables (member : i ∈ declareVariables options handle declarations) : i.Silent := by
  obtain ⟨entry, _, rfl⟩ := List.mem_map.1 member
  exact ⟨rfl, rfl⟩

theorem silent_of_mem_connect (member : i ∈ connections.map (connect handle)) : i.Silent := by
  obtain ⟨c, _, rfl⟩ := List.mem_map.1 member
  exact ⟨rfl, rfl⟩

/-- Around the nodes of a graph, variables are declared and nodes connected. -/
theorem silent_of_mem_enclosed
    (member : i ∈ declareVariables options handle declarations ++ inside ++ connections.map (connect handle)) :
    i ∈ inside ∨ i.Silent := by
  rw [List.mem_append, List.mem_append] at member
  rcases member with (declares | within) | connects
  · exact .inr (silent_of_mem_declareVariables declares)
  · exact .inl within
  · exact .inr (silent_of_mem_connect connects)

end Enclosing

section Splits

variable {α β : Type} {f : α → Option β} {x y : α} {b : β}

/-- What is found once in a list is found at no other place. -/
theorem ne_of_nodup_filterMap {before after : List α} (distinct : ((before ++ x :: after).filterMap f).Nodup)
    (found : f x = some b) (member : y ∈ before ++ after) : f y ≠ some b := by
  intro again
  rw [List.filterMap_append, List.filterMap_cons_some found] at distinct
  obtain ⟨fresh, _⟩ := List.nodup_cons.1 (List.nodup_middle.1 distinct)
  rw [← List.filterMap_append] at fresh
  exact fresh (List.mem_filterMap.2 ⟨y, member, again⟩)

/-- In a list in which nothing is found twice, one element is found by it. -/
theorem eq_of_nodup_filterMap {xs : List α} (distinct : (xs.filterMap f).Nodup) (member : x ∈ xs) (member' : y ∈ xs)
    (found : f x = some b) (found' : f y = some b) : x = y := by
  obtain ⟨before, after, rfl⟩ := List.append_of_mem member
  refine Classical.byContradiction fun differ => ?_
  refine ne_of_nodup_filterMap distinct found ?_ found'
  simpa [List.mem_append, List.mem_cons, Ne.symm differ] using member'

end Splits

/-! ## Positions -/

/-- The position of a node is that of the instruction that creates it, if no earlier one does. -/
theorem Body.position?_of_split {body : Body} {before after : List Instruction} {i : Instruction} {unique : String}
    (split : body.instructions = before ++ i :: after) (creates : i.nodeId? = some unique)
    (earlier : ∀ j ∈ before, j.nodeId? ≠ some unique) : body.position? unique = some before.length := by
  have none : before.findIdx? (Body.creates unique) = none :=
    List.findIdx?_eq_none_iff.2 fun j member => Bool.eq_false_iff.2 (mt Body.creates_iff.1 (earlier j member))
  rw [position?, split, List.findIdx?_append, none, List.findIdx?_cons, if_pos (Body.creates_iff.2 creates)]
  simp

/-- **The positions of distinct nodes ascend** in the order of the instructions that create them. -/
theorem exists_positions {instructions : List Instruction}
    (distinct : (instructions.filterMap Instruction.nodeId?).Nodup) :
    ∃ positions : List Nat, (instructions.filterMap Instruction.nodeId?).map
      (fun unique => instructions.findIdx? (Body.creates unique)) = positions.map some ∧
        positions.Pairwise (· < ·) := by
  induction instructions with
  | nil => exact ⟨[], rfl, .nil⟩
  | cons first rest ih =>
    obtain ⟨positions, located, ascending⟩ := ih (distinct.sublist ((List.sublist_cons_self _ _).filterMap _))
    have shifted : (positions.map (· + 1)).Pairwise (· < ·) :=
      List.pairwise_map.2 (ascending.imp fun less => Nat.succ_lt_succ less)
    -- A node that the first instruction does not create stands one place further behind.
    have further : (∀ unique ∈ rest.filterMap Instruction.nodeId?, first.nodeId? ≠ some unique) →
        (rest.filterMap Instruction.nodeId?).map (fun unique => (first :: rest).findIdx? (Body.creates unique)) =
          (positions.map (· + 1)).map some := by
      intro others
      have each : ∀ unique ∈ rest.filterMap Instruction.nodeId?, (first :: rest).findIdx? (Body.creates unique) =
          (rest.findIdx? (Body.creates unique)).map (· + 1) := fun unique member => by
        rw [List.findIdx?_cons, if_neg (mt Body.creates_iff.1 (others unique member))]
      have moved := congrArg (List.map (Option.map (· + 1))) located
      rw [List.map_map, List.map_map] at moved
      rw [List.map_congr_left each, List.map_map]
      exact moved
    cases created : first.nodeId? with
    | none =>
      rw [List.filterMap_cons_none created]
      exact ⟨positions.map (· + 1), further fun unique _ => by simp [created], shifted⟩
    | some own =>
      rw [List.filterMap_cons_some created] at distinct ⊢
      have fresh := (List.nodup_cons.1 distinct).1
      refine ⟨0 :: positions.map (· + 1), ?_, List.pairwise_cons.2 ⟨by simp, shifted⟩⟩
      rw [List.map_cons, List.map_cons, List.findIdx?_cons, if_pos (Body.creates_iff.2 created)]
      rw [further fun unique member same => fresh (Option.some.inj (created.symm.trans same) ▸ member)]

/-! ## Nodes that are closed -/

/-- **The nodes that a walk closes** are those that it comes to and enters. -/
theorem Walk.mem_closedIds_iff {plan : Plan} {handle : String} {scope : ScopeId} {nodes : List Node} {m m' : Metadata}
    {out : List Instruction} (walk : Walk plan handle scope nodes m out m') {unique : String} :
    unique ∈ closedIds out ↔ ∃ v ∈ Node.visitsAll plan.registry scope nodes, v.generator.opens = true ∧
      v.node.header.uniqueId = unique := by
  induction walk with
  | done => simp [closedIds, Node.visitsAll]
  | skip unknown rest ih => rw [Node.visitsAll, Node.visits_of_unknown unknown, List.nil_append, ih]
  | leaf known closed drafted rest ih =>
    rw [closedIds_creation, Node.visitsAll, Node.visits_of_closed known closed, ih]
    simp [closed]
  | composite known opens nested drafted named within rest ihWithin ihRest =>
    rw [Node.visitsAll, Node.visits_composite known opens]
    simp only [List.cons_append, closedIds_creation, closedIds_append, closedIds_declareVariables, closedIds_connect,
      closedIds_closing, List.nil_append, List.append_nil, List.mem_append, List.mem_cons, List.not_mem_nil, or_false,
      ihWithin, ihRest, or_and_right, exists_or, exists_eq_left, opens, true_and]
    rw [or_comm (b := _ = _), eq_comm, or_assoc]
    exact Iff.rfl

/-! ## What comes behind the end of a node -/

/-- What closes a node may stand before an instruction that belongs to neither this node nor one in it. -/
def Behind (c i : Instruction) : Prop :=
  ∀ unique, c.closes? = some unique → ∀ inner, Continues unique inner → Body.belongsTo inner i = false

theorem behind_of_closes?_eq_none {c : Instruction} (quiet : c.closes? = none) (i : Instruction) : Behind c i := by
  intro unique closes
  cases quiet.symm.trans closes

theorem Instruction.Silent.belongsTo_eq_false {i : Instruction} (silent : i.Silent) (unique : String) :
    Body.belongsTo unique i = false := by
  rw [Bool.eq_false_iff, ne_eq, Body.belongsTo_iff, silent.1, silent.2]
  exact fun h => h.elim nofun nofun

/-- Variables and connections around nodes may stand anywhere. -/
theorem pairwise_behind_enclosed {options : Options} {handle : String} {declarations : SortedMap Variable}
    {connections : List Connection} {inside : List Instruction} (ordered : inside.Pairwise Behind) :
    (declareVariables options handle declarations ++ inside ++ connections.map (connect handle)).Pairwise Behind := by
  have free : ∀ {silent : List Instruction}, (∀ i ∈ silent, i.Silent) → silent.Pairwise Behind := fun all =>
    List.pairwise_of_forall_mem_list fun c member i _ => behind_of_closes?_eq_none (all c member).2 i
  refine List.pairwise_append.2 ⟨List.pairwise_append.2 ⟨free fun i => silent_of_mem_declareVariables, ordered, ?_⟩,
    free fun i => silent_of_mem_connect, ?_⟩
  · exact fun c member i _ => behind_of_closes?_eq_none (silent_of_mem_declareVariables member).2 i
  · exact fun c _ i member unique _ inner _ => (silent_of_mem_connect member).belongsTo_eq_false inner

/-- The instructions of a composite node, and those beside it: the nodes in it are closed before it, and nothing beside
it belongs to the node or to one in it. -/
theorem pairwise_behind_composite {options : Options} {handle inner : String} {header : NodeHeader} {code : Code}
    {declarations : SortedMap Variable} {connections : List Connection} {inside more : List Instruction}
    (ordered : inside.Pairwise Behind) (ordered' : more.Pairwise Behind)
    (inward : ∀ c ∈ inside, ∀ unique, c.closes? = some unique → ∃ tail, unique = uniqueId (some header.uniqueId) tail)
    (beside : ∀ i ∈ more, ∀ unique, Continues header.uniqueId unique → Body.belongsTo unique i = false) :
    (Instruction.creation handle header code :: (declareVariables options inner declarations ++ inside ++
      connections.map (connect inner) ++ [Instruction.closing inner header]) ++ more).Pairwise Behind := by
  rw [List.cons_append]
  refine List.pairwise_cons.2 ⟨fun i _ => behind_of_closes?_eq_none rfl i, List.pairwise_append.2 ⟨?_, ordered', ?_⟩⟩
  · refine List.pairwise_append.2 ⟨pairwise_behind_enclosed ordered, List.pairwise_singleton _ _, ?_⟩
    intro c member i last unique closes other continues
    rw [List.mem_singleton.1 last, Bool.eq_false_iff, ne_eq, Body.belongsTo_iff]
    rcases silent_of_mem_enclosed member with within | silent
    · -- a node in the node has a longer unique id
      obtain ⟨tail, rfl⟩ := inward c within unique closes
      obtain ⟨longer, rfl⟩ := uniqueId_of_continues continues
      rintro (creates | same)
      · cases creates
      · exact uniqueId_ne _ _ (Option.some.inj same).symm
    · cases silent.2.symm.trans closes
  · intro c member i later unique closes other continues
    refine beside i later other ?_
    rcases List.mem_append.1 member with enclosed | last
    · rcases silent_of_mem_enclosed enclosed with within | silent
      · obtain ⟨tail, rfl⟩ := inward c within unique closes
        exact .inr (uniqueId_of_continues continues)
      · cases silent.2.symm.trans closes
    · rw [List.mem_singleton.1 last] at closes
      cases closes
      exact continues

section Walks

variable {plan : Plan} {parent : Option String} {handle : String} {scope : ScopeId}
  {definitions : List NodeDefinition} {nodes : List Node} {m m' : Metadata} {out : List Instruction}

/-- The instructions of a walk belong to nodes of the graph. -/
theorem Built.mem_uniqueIds_of_belongsTo (built : Built plan.scopes parent scope definitions nodes)
    (walk : Walk plan handle scope nodes m out m') {i : Instruction} (member : i ∈ out) {unique : String}
    (belongs : Body.belongsTo unique i = true) : unique ∈ Node.uniqueIds nodes := by
  rcases Body.belongsTo_iff.1 belongs with creates | closes
  · exact walk.nodeIds_sublist.subset (List.mem_filterMap.2 ⟨i, member, creates⟩)
  · exact (walk.closedIds_nodup built.nodup_uniqueIds).2 (List.mem_filterMap.2 ⟨i, member, closes⟩)

/-- **What closes a node comes behind all that belongs to the nodes in it.** -/
theorem Built.pairwise_behind (built : Built plan.scopes parent scope definitions nodes) :
    ∀ {handle : String} {m m' : Metadata} {out : List Instruction}, Walk plan handle scope nodes m out m' →
      out.Pairwise Behind := by
  induction built with
  | done =>
    intro handle m m' out walk
    cases walk
    exact .nil
  | plain valid fresh bare rest ih =>
    intro handle m m' out walk
    cases walk with
    | skip unknown others => exact ih others
    | leaf known closed drafted others =>
      exact List.pairwise_cons.2 ⟨fun i _ => behind_of_closes?_eq_none rfl i, ih others⟩
  | @composite parent _ own definitions inner nodes children id _ _ _ _ _ valid fresh found newer within joined rest
      ihWithin ihRest =>
    intro handle m m' out walk
    cases walk with
    | skip unknown others => exact ihRest others
    | leaf known closed drafted others =>
      exact List.pairwise_cons.2 ⟨fun i _ => behind_of_closes?_eq_none rfl i, ihRest others⟩
    | composite known opens nested drafted named walked others =>
      refine pairwise_behind_composite (ihWithin walked) (ihRest others) ?_ ?_
      · intro c member unique closes
        exact within.goes_on unique
          (within.mem_uniqueIds_of_belongsTo walked member (Body.belongsTo_iff.2 (.inr closes)))
      · intro i member unique continues
        rw [Bool.eq_false_iff]
        exact fun belongs => rest.not_continues valid fresh unique
          (rest.mem_uniqueIds_of_belongsTo others member belongs) continues

end Walks

/-! ## Whole bodies -/

namespace NodeHeader

/-- Whether a node is of a composite type. -/
def isComposite (node : NodeHeader) : Bool := (BuiltinType.ofTag? node.type).any BuiltinType.isComposite

end NodeHeader

namespace Body

/-- **An instruction of the subtree of a node**: it creates or closes the node or one in it, or is for the builder of
such a node. -/
def InSubtree (body : Body) (unique : String) (i : Instruction) : Prop :=
  ∃ inner, Continues unique inner ∧ (belongsTo inner i = true ∨ body.handleOf? inner = some i.handle)

/-- **How a node stands in a body.** One instruction creates it, at its position. If it is composite, one instruction
closes it, behind all of its subtree. Its fragment is the code of what creates and closes it. -/
structure Frames (body : Body) (node : NodeHeader) (before : List Instruction) (i : Instruction)
    (after : List Instruction) : Prop where
  split : body.instructions = before ++ i :: after
  creates : i.nodeId? = some node.uniqueId
  once : ∀ j ∈ before ++ after, j.nodeId? ≠ some node.uniqueId
  position : body.position? node.uniqueId = some before.length
  plain : node.isComposite = false → body.fragment node.uniqueId = i.code
  composite : node.isComposite = true → ∃ inside c rest, after = inside ++ c :: rest ∧
    c.kind = .close node.uniqueId ∧ (∀ j ∈ before ++ inside ++ rest, j.kind ≠ .close node.uniqueId) ∧
    (∀ j ∈ rest, ¬ body.InSubtree node.uniqueId j) ∧ body.fragment node.uniqueId = i.code ++ c.code

end Body

/-- What holds of the instructions of every body that is generated. -/
structure Body.Ordered (body : Body) : Prop where
  created : (body.instructions.filterMap Instruction.nodeId?).Nodup
  closed : (closedIds body.instructions).Nodup
  behind : body.instructions.Pairwise Behind
  handles : (introduced body.instructions).Nodup
  notRoot : rootHandle ∉ introduced body.instructions
  bracketed : Bracketed rootHandle body.instructions

theorem ordered_of_generate {d : ProcessDefinition} {graph : ProcessGraph} {registry : Registry}
    (uses : registry.UsesBuiltins) {options : Options} {session : Session}
    (accepted : ProcessGraph.ofDefinition d = .ok graph) (generated : generate graph registry options = .ok session) :
    session.body.Ordered := by
  obtain ⟨_, _, _, built⟩ := built_of_ofDefinition accepted
  obtain ⟨out, walk, body⟩ := generate_eq_ok_iff.1 generated
  have introduces := walk.introduces uses
  exact {
    created := nodup_nodeIds accepted generated
    closed := by
      rw [body]
      simpa using (walk.closedIds_nodup built.nodup_uniqueIds).1
    behind := by
      rw [body]
      exact pairwise_behind_enclosed (built.pairwise_behind walk)
    handles := by
      rw [body]
      simpa using introduces.distinct
    notRoot := by
      rw [body]
      simpa using introduces.notRoot
    bracketed := by
      rw [body]
      exact (walk.bracketed uses).enclosed }

/-- The nodes of a body that are closed are the composite ones. -/
theorem mem_closedIds_of_generate {d : ProcessDefinition} {graph : ProcessGraph} {options : Options}
    {session : Session} (accepted : ProcessGraph.ofDefinition d = .ok graph)
    (generated : generate graph .builtin options = .ok session) (unique : String) :
    unique ∈ closedIds session.body.instructions ↔
      ∃ node ∈ d.created, node.isComposite = true ∧ node.uniqueId = unique := by
  obtain ⟨out, walk, body⟩ := generate_eq_ok_iff.1 generated
  rw [body, ProcessDefinition.created_eq accepted]
  simp only [closedIds_append, closedIds_declareVariables, closedIds_connect, List.nil_append, List.append_nil,
    walk.mem_closedIds_iff, List.mem_map, exists_exists_and_eq_and]
  refine exists_congr fun v => and_congr_right fun member => ?_
  obtain ⟨_, _, _, _, known⟩ := ProcessGraph.mem_visits_iff.1 member
  obtain ⟨type, tagged, builtin⟩ := Registry.exists_ofTag?_of_find?_builtin known
  rw [← builtin, BuiltinType.opens_generator, NodeHeader.isComposite, tagged, Option.any_some]

namespace Body.Ordered

variable {body : Body} (ordered : body.Ordered)

include ordered

/-- The handle of a node is used for nothing behind the instruction that closes a node around it. -/
theorem not_inSubtree {before rest : List Instruction} {c : Instruction} {unique : String}
    (split : body.instructions = before ++ c :: rest) (closes : c.closes? = some unique) {j : Instruction}
    (later : j ∈ rest) : ¬ body.InSubtree unique j := by
  have behind := ordered.behind
  rw [split] at behind
  have apart : ∀ i ∈ rest, ∀ inner, Continues unique inner → belongsTo inner i = false := fun i member =>
    (List.pairwise_cons.1 (List.pairwise_append.1 behind).2.1).1 i member unique closes
  rintro ⟨inner, continues, belongs | handled⟩
  · rw [apart j later inner continues] at belongs
    cases belongs
  -- What creates the inner node introduces the handle, and where a handle is used it is open.
  obtain ⟨k, found, introduces⟩ := Option.bind_eq_some_iff.1 handled
  have member := List.mem_of_find?_eq_some found
  have creates := Body.creates_iff.1 (List.find?_some found)
  obtain ⟨between, behindIt, rfl⟩ := List.append_of_mem later
  have place : body.instructions = (before ++ c :: between) ++ j :: behindIt := by rw [split]; simp
  rcases ordered.bracketed _ j behindIt place with
    root | ⟨other, type, ⟨k', earlier, kind, introduces'⟩, e, ends, closes', _⟩
  · rw [root] at introduces
    exact ordered.notRoot (List.mem_filterMap.2 ⟨k, member, introduces⟩)
  · have member' : k' ∈ body.instructions := by
      rw [place]
      exact List.mem_append_left _ earlier
    obtain rfl := eq_of_nodup_filterMap ordered.handles member member' introduces introduces'
    have same : inner = other := by
      have creates' : k.nodeId? = some other := by rw [Instruction.nodeId?, kind]
      exact Option.some.inj (creates.symm.trans creates')
    subst same
    have within : e ∈ between ++ j :: behindIt := List.mem_append_right _ ends
    have belongs : belongsTo inner e = true :=
      Body.belongsTo_iff.2 (.inr (Instruction.closes?_eq_some_iff.2 closes'))
    rw [apart e within inner continues] at belongs
    cases belongs

/-- The fragment of a node that is not closed is the code of the instruction that creates it. -/
theorem fragment_of_open {before after : List Instruction} {i : Instruction} {unique : String}
    (split : body.instructions = before ++ i :: after) (creates : i.nodeId? = some unique)
    (isOpen : unique ∉ closedIds body.instructions) : body.fragment unique = i.code := by
  have created := ordered.created
  rw [split] at created isOpen
  have others : ∀ j ∈ before ++ after, belongsTo unique j ≠ true := by
    intro j member belongs
    rcases Body.belongsTo_iff.1 belongs with again | closes
    · exact ne_of_nodup_filterMap created creates member again
    · refine isOpen (List.mem_filterMap.2 ⟨j, ?_, closes⟩)
      rw [List.mem_append, List.mem_cons]
      exact (List.mem_append.1 member).imp_right .inr
  rw [List.forall_mem_append] at others
  rw [fragment, split, List.filter_append, List.filter_cons_of_pos (Body.belongsTo_iff.2 (.inl creates)),
    List.filter_eq_nil_iff.2 others.1, List.filter_eq_nil_iff.2 others.2]
  simp

/-- A node that is closed is closed by one instruction, behind the one that creates it, and its fragment is the code of
both. -/
theorem fragment_of_closed {before after : List Instruction} {i : Instruction} {unique : String}
    (split : body.instructions = before ++ i :: after) (creates : i.nodeId? = some unique)
    (shut : unique ∈ closedIds body.instructions) :
    ∃ inside c rest, after = inside ++ c :: rest ∧ c.kind = .close unique ∧
      (∀ j ∈ before ++ inside ++ rest, j.kind ≠ .close unique) ∧ body.fragment unique = i.code ++ c.code := by
  obtain ⟨c, member, closes⟩ := List.mem_filterMap.1 shut
  have created := ordered.created
  have behind := ordered.behind
  have closed := ordered.closed
  rw [split] at created behind closed member
  have belongs : belongsTo unique i = true := Body.belongsTo_iff.2 (.inl creates)
  have later : c ∈ after := by
    rcases List.mem_append.1 member with early | here
    · have none := (List.pairwise_append.1 behind).2.2 c early i List.mem_cons_self unique closes unique (.inl rfl)
      cases belongs.symm.trans none
    · rcases List.mem_cons.1 here with rfl | later
      · rw [Instruction.closes?_eq_some_iff] at closes
        rw [Instruction.nodeId?, closes] at creates
        cases creates
      · exact later
  obtain ⟨inside, rest, rfl⟩ := List.append_of_mem later
  have shift : before ++ i :: (inside ++ c :: rest) = (before ++ i :: inside) ++ c :: rest := by simp
  have once : ∀ j ∈ before ++ inside ++ rest, j.closes? ≠ some unique := by
    intro j among
    rw [shift] at closed
    refine ne_of_nodup_filterMap closed closes ?_
    simp only [List.mem_append, List.mem_cons] at among ⊢
    tauto
  have others : ∀ j ∈ before ++ inside ++ rest, belongsTo unique j ≠ true := by
    intro j among belongs
    rcases Body.belongsTo_iff.1 belongs with again | closes
    · refine ne_of_nodup_filterMap created creates ?_ again
      simp only [List.mem_append, List.mem_cons] at among ⊢
      tauto
    · exact once j among closes
  refine ⟨inside, c, rest, rfl, Instruction.closes?_eq_some_iff.1 closes,
    fun j among => mt Instruction.closes?_eq_some_iff.2 (once j among), ?_⟩
  rw [List.forall_mem_append, List.forall_mem_append] at others
  rw [fragment, split, List.filter_append, List.filter_cons_of_pos belongs, List.filter_append,
    List.filter_cons_of_pos (Body.belongsTo_iff.2 (.inr closes)), List.filter_eq_nil_iff.2 others.1.1,
    List.filter_eq_nil_iff.2 others.1.2, List.filter_eq_nil_iff.2 others.2]
  simp

/-- **A node that is created stands in the body as described**, if the composite nodes are those that are closed. -/
theorem exists_frames {node : NodeHeader} (listed : node.uniqueId ∈ body.nodeIds)
    (shut : node.uniqueId ∈ closedIds body.instructions ↔ node.isComposite = true) :
    ∃ before i after, body.Frames node before i after := by
  obtain ⟨i, among, creates⟩ := List.mem_filterMap.1 listed
  obtain ⟨before, after, split⟩ := List.append_of_mem among
  have once : ∀ j ∈ before ++ after, j.nodeId? ≠ some node.uniqueId := fun j here =>
    ne_of_nodup_filterMap (split ▸ ordered.created) creates here
  refine ⟨before, i, after, split, creates, once,
    Body.position?_of_split split creates (List.forall_mem_append.1 once).1, fun isPlain => ?_, fun isComposite => ?_⟩
  · exact ordered.fragment_of_open split creates fun closed => absurd (shut.1 closed) (Bool.eq_false_iff.1 isPlain)
  · obtain ⟨inside, c, rest, rfl, closes, one, code⟩ := ordered.fragment_of_closed split creates (shut.2 isComposite)
    have place : body.instructions = (before ++ i :: inside) ++ c :: rest := by rw [split]; simp
    exact ⟨inside, c, rest, rfl, closes, one,
      fun j later => ordered.not_inSubtree place (Instruction.closes?_eq_some_iff.2 closes) later, code⟩

end Body.Ordered

/-- What is neither created nor closed has no position and no fragment. -/
theorem Body.unlocated {body : Body} {unique : String} (created : unique ∉ body.nodeIds)
    (closed : unique ∉ closedIds body.instructions) : body.position? unique = none ∧ body.fragment unique = [] := by
  have uncreated : ∀ i ∈ body.instructions, i.nodeId? ≠ some unique := fun i member creates =>
    created (List.mem_filterMap.2 ⟨i, member, creates⟩)
  have unclosed : ∀ i ∈ body.instructions, i.closes? ≠ some unique := fun i member closes =>
    closed (List.mem_filterMap.2 ⟨i, member, closes⟩)
  have none : body.instructions.filter (belongsTo unique) = [] :=
    List.filter_eq_nil_iff.2 fun i member belongs =>
      (belongsTo_iff.1 belongs).elim (uncreated i member) (unclosed i member)
  refine ⟨List.findIdx?_eq_none_iff.2 fun i member => ?_, by rw [fragment, none]; rfl⟩
  exact Bool.eq_false_iff.2 (mt creates_iff.1 (uncreated i member))

/-- **The nodes that are created partition the code of nodes.** Their positions ascend, each before those of the nodes
in it; each stands in the body as `Body.Frames` describes it; and no other text has a position or a fragment. -/
theorem fragments_of_generate {d : ProcessDefinition} {graph : ProcessGraph} {options : Options} {session : Session}
    (accepted : ProcessGraph.ofDefinition d = .ok graph) (generated : generate graph .builtin options = .ok session) :
    (∃ positions : List Nat, d.created.map (fun node => session.body.position? node.uniqueId) = positions.map some ∧
      positions.Pairwise (· < ·)) ∧
    (∀ node ∈ d.created, ∃ before i after, session.body.Frames node before i after) ∧
    ∀ unique, (∀ node ∈ d.created, node.uniqueId ≠ unique) →
      session.body.position? unique = none ∧ session.body.fragment unique = [] := by
  have ordered := ordered_of_generate Registry.usesBuiltins_builtin accepted generated
  have nodeIds := nodeIds_eq_created accepted generated
  have closed := mem_closedIds_of_generate accepted generated
  have distinct : (d.created.map NodeHeader.uniqueId).Nodup := nodeIds ▸ ordered.created
  refine ⟨?_, fun node member => ordered.exists_frames ?_ ⟨fun shut => ?_, fun isComposite => ?_⟩,
    fun unique other => Body.unlocated ?_ fun shut => ?_⟩
  · obtain ⟨positions, located, ascending⟩ := exists_positions ordered.created
    have inOrder : session.body.nodeIds.map session.body.position? = positions.map some := located
    rw [nodeIds, List.map_map] at inOrder
    exact ⟨positions, inOrder, ascending⟩
  · rw [nodeIds]
    exact List.mem_map_of_mem member
  · obtain ⟨other, created, composite, same⟩ := (closed node.uniqueId).1 shut
    obtain rfl : other = node := List.inj_on_of_nodup_map distinct created member same
    exact composite
  · exact (closed node.uniqueId).2 ⟨node, member, isComposite, rfl⟩
  · rw [nodeIds, List.mem_map]
    exact fun ⟨node, among, same⟩ => other node among same
  · obtain ⟨node, among, _, same⟩ := (closed unique).1 shut
    exact other node among same

theorem fragments_of_generate_dispatch : ∃ graph session,
    ProcessGraph.ofDefinition dispatchDefinition = .ok graph ∧
      generate graph .builtin Options.default = .ok session ∧
      dispatchDefinition.created.map (fun node => session.body.position? node.uniqueId) =
        [0, 1, 2, 3, 4, 5, 6, 7].map some ∧
      (∀ node ∈ dispatchDefinition.created, ∃ before i after, session.body.Frames node before i after) ∧
      session.body.position? "old:lost" = none ∧ session.body.fragment "old:lost" = [] := by
  have located : (dispatchDefinition.session? .builtin Options.default).map (fun session =>
      dispatchDefinition.created.map fun node => session.body.position? node.uniqueId) =
        some ([0, 1, 2, 3, 4, 5, 6, 7].map some) := by decide +kernel
  have absent : ∀ node ∈ dispatchDefinition.created, node.uniqueId ≠ "old:lost" := by decide +kernel
  obtain ⟨session, found, positions⟩ := Option.map_eq_some_iff.1 located
  obtain ⟨graph, accepted, generated⟩ := ProcessDefinition.session?_eq_some_iff.1 found
  obtain ⟨_, stand, nothing⟩ := fragments_of_generate accepted generated
  exact ⟨graph, session, accepted, generated, positions, stand, nothing "old:lost" absent⟩

end ProcessCompiler
