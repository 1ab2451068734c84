import ProcessCompiler.Proofs.Coverage
import ProcessCompiler.Proofs.Handles
import ProcessCompiler.Proofs.Unlinking

/-!
# Connections and their ends

The connections of a graph are emitted behind its nodes, on the handle of the graph, once each and in order. Each joins
two nodes of the graph, and of the two those of known type were created before on the same handle. A node of unknown
type is left out, but the connections to it stay.

* `ProcessGraph.Addresses`: the nodes that a handle stands for.
* `Walk.joins`: a walk connects nodes that it created before.
* `Walk.links`: a walk emits the connections in the nodes that it enters.
* `endpoints_of_generate`: which connections are emitted, and which of their ends have been created.
-/

namespace ProcessCompiler

/-! ## Instructions with regard to those before them -/

/-- Each of the instructions has a property that looks at the instructions before it, the first ones among them. -/
def Placed (P : List Instruction → Instruction → Prop) : List Instruction → List Instruction → Prop
  | _, [] => True
  | before, i :: out => P before i ∧ Placed P (before ++ [i]) out

section Placed

variable {P : List Instruction → Instruction → Prop} {before out more : List Instruction}

theorem placed_append : Placed P before (out ++ more) ↔ Placed P before out ∧ Placed P (before ++ out) more := by
  induction out generalizing before with
  | nil => simp [Placed]
  | cons i out ih =>
    rw [List.cons_append, Placed, Placed, ih, and_assoc, List.append_assoc, List.singleton_append]

theorem placed_of_forall (h : ∀ i ∈ out, ∀ between, P (before ++ between) i) : Placed P before out := by
  induction out generalizing before with
  | nil => trivial
  | cons i out ih =>
    refine ⟨by simpa using h i List.mem_cons_self [], ih fun j member between => ?_⟩
    rw [List.append_assoc]
    exact h j (List.mem_cons_of_mem _ member) _

/-- What holds of placed instructions, at a split. -/
theorem of_placed {i : Instruction} {after : List Instruction} (h : Placed P before (out ++ i :: after)) :
    P (before ++ out) i := (placed_append.1 h).2.1

end Placed

/-! ## Nodes that are joined -/

/-- The connections in nodes that are built join nodes side by side, at every depth. -/
theorem Built.connections_isAmong {arena : Arena} {parent : Option String} {enclosing : ScopeId}
    {definitions : List NodeDefinition} {nodes : List Node} (h : Built arena parent enclosing definitions nodes) :
    ∀ node ∈ Node.flattenAll nodes, ∀ connections ∈ node.connections?, ∀ c ∈ connections,
      c.IsAmong (node.children.map (·.header.id)) := by
  induction h with
  | done =>
    intro node member
    cases member
  | plain valid fresh bare rest ih =>
    intro node member connections listed
    rw [Node.flattenAll, Node.flatten, List.singleton_append] at member
    rcases List.mem_cons.1 member with rfl | beside
    · cases listed
    · exact ih node beside connections listed
  | composite valid fresh found newer within joined rest ihWithin ihRest =>
    intro node member connections listed
    rw [Node.flattenAll, Node.flatten, List.cons_append] at member
    rcases List.mem_cons.1 member with rfl | member
    · cases listed
      intro c among
      rw [Connection.IsAmong, Node.children, within.ids_eq]
      exact joined c among
    · rcases List.mem_append.1 member with inside | beside
      · exact ihWithin node inside connections listed
      · exact ihRest node beside connections listed

/-- The connections of a graph that is built join nodes of the process. -/
theorem connections_isAmong_of_ofDefinition {d : ProcessDefinition} {graph : ProcessGraph}
    (accepted : ProcessGraph.ofDefinition d = .ok graph) :
    ∀ c ∈ graph.connections, c.IsAmong (graph.nodes.map (·.header.id)) := by
  obtain ⟨nodes, last, _, checked, rfl⟩ := ProcessGraph.ofDefinition_eq_ok_iff.1 accepted
  exact checkConnections_eq_ok checked

/-! ## Walks -/

/-- An instruction creates a node on a handle. -/
def Instruction.Creates (i : Instruction) (handle : String) (node : NodeHeader) : Prop :=
  i.kind = .node node.uniqueId node.type ∧ i.handle = handle

/-- **The nodes that a handle stands for** behind some instructions: those of the process for its factory, those in a
node for the builder that one of the instructions creates for the node. -/
def ProcessGraph.Addresses (graph : ProcessGraph) (before : List Instruction) (handle : String)
    (siblings : List Node) : Prop :=
  (handle = rootHandle ∧ siblings = graph.nodes) ∨
    ∃ outer ∈ Node.flattenAll graph.nodes, siblings = outer.children ∧
      ∃ i ∈ before, i.kind = .node outer.header.uniqueId outer.header.type ∧ i.declares? = some handle

/-- If the instruction connects nodes, they are nodes that its handle stands for, and were created on the handle before
if their type is known. -/
def ProcessGraph.Joins (graph : ProcessGraph) (registry : Registry) (before : List Instruction) (i : Instruction) :
    Prop :=
  ∀ source target, i.kind = .connection source target → ∃ siblings, graph.Addresses before i.handle siblings ∧
    ∀ id ∈ [source, target], ∃ node ∈ siblings, node.header.id = id ∧
      ∀ generator, registry.find? node.header.type = some generator → ∃ j ∈ before, j.Creates i.handle node.header

/-- The connection of nodes that a handle stands for, behind what creates those of known type. -/
theorem ProcessGraph.joins_connect {graph : ProcessGraph} {registry : Registry} {before : List Instruction}
    {handle : String} {siblings : List Node} {c : Connection} (stands : graph.Addresses before handle siblings)
    (among : c.IsAmong (siblings.map (·.header.id)))
    (created : ∀ node ∈ siblings, ∀ generator, registry.find? node.header.type = some generator →
      ∃ j ∈ before, j.Creates handle node.header) : graph.Joins registry before (connect handle c) := by
  rintro source target ⟨⟩
  refine ⟨siblings, stands, fun id listed => ?_⟩
  have known : id ∈ siblings.map (·.header.id) := by
    rw [List.mem_pair] at listed
    rcases listed with rfl | rfl
    · exact among.1
    · exact among.2
  obtain ⟨node, member, same⟩ := List.mem_map.1 known
  exact ⟨node, member, same, created node member⟩

section Lists

variable {graph : ProcessGraph} {registry : Registry} {before : List Instruction} {handle : String}

theorem ProcessGraph.Addresses.append {siblings : List Node} (stands : graph.Addresses before handle siblings)
    (later : List Instruction) : graph.Addresses (before ++ later) handle siblings := by
  refine stands.imp_right ?_
  rintro ⟨outer, among, same, i, earlier, creates⟩
  exact ⟨outer, among, same, i, List.mem_append_left later earlier, creates⟩

/-- Variables are declared without connecting anything. -/
theorem ProcessGraph.placed_declareVariables (options : Options) (declarations : SortedMap Variable) :
    Placed (graph.Joins registry) before (declareVariables options handle declarations) := by
  refine placed_of_forall fun i declares between => ?_
  obtain ⟨entry, _, rfl⟩ := List.mem_map.1 declares
  exact nofun

/-- Connections of nodes that a handle stands for, behind what creates those of known type. -/
theorem ProcessGraph.placed_connect {siblings : List Node} {connections : List Connection}
    (stands : graph.Addresses before handle siblings)
    (among : ∀ c ∈ connections, c.IsAmong (siblings.map (·.header.id)))
    (created : ∀ node ∈ siblings, ∀ generator, registry.find? node.header.type = some generator →
      ∃ j ∈ before, j.Creates handle node.header) :
    Placed (graph.Joins registry) before (connections.map (connect handle)) := by
  refine placed_of_forall fun i connects between => ?_
  obtain ⟨c, listed, rfl⟩ := List.mem_map.1 connects
  refine joins_connect (stands.append between) (among c listed) fun node member generator known => ?_
  obtain ⟨j, earlier, creates⟩ := created node member generator known
  exact ⟨j, List.mem_append_left between earlier, creates⟩

end Lists

section Walks

variable {plan : Plan} {graph : ProcessGraph} {handle : String} {scope : ScopeId} {nodes : List Node}
  {m m' : Metadata} {out : List Instruction}

/-- A walk creates the nodes of known type on its handle. -/
theorem Walk.exists_creation (walk : Walk plan handle scope nodes m out m') :
    ∀ node ∈ nodes, ∀ generator, plan.registry.find? node.header.type = some generator →
      ∃ i ∈ out, i.Creates handle node.header := by
  induction walk with
  | done =>
    intro node member
    cases member
  | skip unknown rest ih =>
    intro node member generator known
    rcases List.mem_cons.1 member with rfl | beside
    · cases known.symm.trans unknown
    · exact ih node beside generator known
  | leaf _ closed drafted rest ih =>
    intro node member generator known
    rcases List.mem_cons.1 member with rfl | beside
    · exact ⟨_, List.mem_cons_self, rfl, rfl⟩
    · obtain ⟨i, later, creates⟩ := ih node beside generator known
      exact ⟨i, List.mem_cons_of_mem _ later, creates⟩
  | composite _ opens nested drafted named within rest ihWithin ihRest =>
    intro node member generator known
    rcases List.mem_cons.1 member with rfl | beside
    · exact ⟨_, List.mem_cons_self, rfl, rfl⟩
    · obtain ⟨i, later, creates⟩ := ihRest node beside generator known
      exact ⟨i, List.mem_append_right _ later, creates⟩

/-- **A walk connects nodes that a handle stands for**, and that it created before if their type is known. -/
theorem Walk.joins (uses : plan.registry.UsesBuiltins)
    (linked : ∀ node ∈ Node.flattenAll graph.nodes, ∀ connections ∈ node.connections?, ∀ c ∈ connections,
      c.IsAmong (node.children.map (·.header.id)))
    (walk : Walk plan handle scope nodes m out m') :
    Node.flattenAll nodes ⊆ Node.flattenAll graph.nodes →
      ∀ before, Placed (graph.Joins plan.registry) before out := by
  induction walk with
  | done => exact fun _ _ => trivial
  | @skip _ _ node nodes _ _ _ _ _ ih =>
    exact fun inside => ih (List.Subset.trans (Node.flattenAll_subset node nodes) inside)
  | @leaf _ _ node nodes _ _ _ _ _ _ _ _ _ _ ih =>
    intro inside before
    exact ⟨nofun, ih (List.Subset.trans (Node.flattenAll_subset node nodes) inside) _⟩
  | @composite handle inner _ own header children nodes connections _ _ _ deeper _ _ _ code known opens nested drafted
      named within rest ihWithin ihRest =>
    intro inside before
    obtain ⟨type, a, rfl, said⟩ := uses.drafted_composite known drafted
    have here : Node.composite header own children connections ∈ Node.flattenAll graph.nodes :=
      inside (Node.mem_flattenAll_self _ _)
    have ihWithin := ihWithin (List.Subset.trans (Node.flattenAll_children_subset _ _ _ _ _) inside)
    have ihRest := ihRest (List.Subset.trans (Node.flattenAll_subset _ _) inside)
    rw [List.cons_append]
    refine ⟨nofun, ?_⟩
    rw [placed_append, placed_append, placed_append, placed_append]
    refine ⟨⟨⟨⟨ProcessGraph.placed_declareVariables _ _, ihWithin _⟩, ?_⟩, ⟨nofun, trivial⟩⟩, ihRest _⟩
    refine ProcessGraph.placed_connect (.inr ⟨_, here, rfl, ?_⟩) (linked _ here connections rfl) ?_
    · exact ⟨.creation handle header (code inner), by simp, rfl, Instruction.declares?_of_drafted said _ _⟩
    · intro node member generator known
      obtain ⟨j, created, creates⟩ := within.exists_creation node member generator known
      exact ⟨j, by simp [created], creates⟩

end Walks

/-! ## Connections on a handle -/

/-- The instructions on a handle that connect nodes, in order. -/
def connectionsOn (handle : String) (out : List Instruction) : List Instruction :=
  out.filter fun i => i.connects && i.handle == handle

section ConnectionsOn

variable {handle inner : String}

@[simp] theorem connectionsOn_append (out more : List Instruction) :
    connectionsOn handle (out ++ more) = connectionsOn handle out ++ connectionsOn handle more :=
  List.filter_append out more

@[simp] theorem connectionsOn_creation (node : NodeHeader) (code : Code) (out : List Instruction) :
    connectionsOn handle (.creation inner node code :: out) = connectionsOn handle out := rfl

@[simp] theorem connectionsOn_closing (node : NodeHeader) (out : List Instruction) :
    connectionsOn handle (.closing inner node :: out) = connectionsOn handle out := rfl

@[simp] theorem connectionsOn_declareVariables (options : Options) (declarations : SortedMap Variable) :
    connectionsOn handle (declareVariables options inner declarations) = [] := by
  rw [connectionsOn, List.filter_eq_nil_iff]
  intro i member
  obtain ⟨entry, _, rfl⟩ := List.mem_map.1 member
  exact Bool.false_ne_true

theorem connectionsOn_connect (connections : List Connection) :
    connectionsOn handle (connections.map (connect handle)) = connections.map (connect handle) := by
  rw [connectionsOn, List.filter_eq_self]
  intro i member
  obtain ⟨c, _, rfl⟩ := List.mem_map.1 member
  exact beq_self_eq_true handle

theorem connectionsOn_connect_of_ne (differ : inner ≠ handle) (connections : List Connection) :
    connectionsOn handle (connections.map (connect inner)) = [] := by
  rw [connectionsOn, List.filter_eq_nil_iff]
  intro i member
  obtain ⟨c, _, rfl⟩ := List.mem_map.1 member
  simpa [connect] using fun _ => differ

end ConnectionsOn

/-- The connections that a registry has emitted for a node: those in it, if its generator goes on with what is there. -/
def Registry.connectionsIn (registry : Registry) (node : Node) : List Connection :=
  if (registry.find? node.header.type).any Generator.opens then node.connections?.getD [] else []

theorem Registry.connectionsIn_of_closed {registry : Registry} {node : Node} {generator : Generator}
    (known : registry.find? node.header.type = some generator) (closed : generator.opens = false) :
    registry.connectionsIn node = [] := by
  rw [connectionsIn, known, Option.any_some, closed]
  rfl

theorem Registry.connectionsIn_composite {registry : Registry} {header : NodeHeader} {own : ScopeId}
    {children : List Node} {connections : List Connection} {generator : Generator}
    (known : registry.find? header.type = some generator) (opens : generator.opens = true) :
    registry.connectionsIn (.composite header own children connections) = connections := by
  show (if (registry.find? header.type).any Generator.opens then connections else []) = connections
  rw [known, Option.any_some, if_pos opens]

section Links

variable {plan : Plan} {handle inner : String} {scope : ScopeId} {nodes : List Node} {m m' : Metadata}
  {out : List Instruction}

/-- A walk connects nodes only on handles that it introduces. -/
theorem Walk.connectionsOn_eq_nil (uses : plan.registry.UsesBuiltins) (walk : Walk plan handle scope nodes m out m') :
    inner ∉ introduced out → connectionsOn inner out = [] := by
  induction walk with
  | done => exact fun _ => rfl
  | skip unknown rest ih => exact ih
  | leaf known closed drafted rest ih =>
    intro absent
    rw [connectionsOn_creation]
    refine ih fun later => absent ?_
    rw [introduced_cons]
    exact List.mem_append_right _ later
  | composite known opens nested drafted named within rest ihWithin ihRest =>
    obtain ⟨type, a, rfl, said⟩ := uses.drafted_composite known drafted
    intro absent
    rw [introduced_composite (Instruction.declares?_of_drafted said _ _), List.mem_cons, List.mem_append] at absent
    obtain ⟨differ, others⟩ := not_or.1 absent
    obtain ⟨notInside, notBeside⟩ := not_or.1 others
    simp [ihWithin notInside, ihRest notBeside, connectionsOn_connect_of_ne (Ne.symm differ)]

/-- **A walk emits the connections in the nodes that it creates and enters**, on their handles, once each and in
order. -/
theorem Walk.links (uses : plan.registry.UsesBuiltins) (walk : Walk plan handle scope nodes m out m') :
    (introduced out).Nodup → ∀ i ∈ out, i.declares? = some inner → ∃ node ∈ Node.flattenAll nodes,
      i.kind = .node node.header.uniqueId node.header.type ∧
        connectionsOn inner out = (plan.registry.connectionsIn node).map (connect inner) := by
  induction walk with
  | done =>
    intro _ i member
    cases member
  | @skip _ _ node nodes _ _ _ _ _ ih =>
    intro distinct i member introduces
    obtain ⟨node', inside, created, emitted⟩ := ih distinct i member introduces
    exact ⟨node', Node.flattenAll_subset node nodes inside, created, emitted⟩
  | @leaf handle _ node nodes m _ out _ _ code known closed drafted rest ih =>
    obtain ⟨type, a, rfl, said⟩ := uses.drafted known drafted
    have own := Instruction.declares?_of_drafted said handle (m.freshHandle node.header.handleBase)
    intro distinct i member introduces
    rw [introduced_cons, own, Option.toList_some, List.singleton_append] at distinct
    obtain ⟨fresh, distinct⟩ := List.nodup_cons.1 distinct
    rcases List.mem_cons.1 member with rfl | later
    · obtain rfl := Option.some.inj (own.symm.trans introduces)
      refine ⟨node, Node.mem_flattenAll_self node nodes, rfl, ?_⟩
      rw [connectionsOn_creation, rest.connectionsOn_eq_nil uses fresh, Registry.connectionsIn_of_closed known closed]
      rfl
    · obtain ⟨node', inside, created, emitted⟩ := ih distinct i later introduces
      exact ⟨node', Node.flattenAll_subset node nodes inside, created, emitted⟩
  | @composite handle own _ _ header children nodes connections _ _ _ deeper out _ _ code known opens nested drafted
      named within rest ihWithin ihRest =>
    obtain ⟨type, a, rfl, said⟩ := uses.drafted_composite known drafted
    have first := Instruction.declares?_of_drafted said handle own
    intro distinct i member introduces
    rw [introduced_composite first] at distinct
    obtain ⟨fresh, distinct⟩ := List.nodup_cons.1 distinct
    obtain ⟨distinctWithin, distinctRest, apart⟩ := List.nodup_append.1 distinct
    rw [List.mem_append, not_or] at fresh
    -- The handle is that of the node, of one in it or of one beside it, and of only one of these.
    rcases mem_composite member with rfl | within' | beside | ⟨_, silent⟩
    · obtain rfl := Option.some.inj (first.symm.trans introduces)
      refine ⟨_, Node.mem_flattenAll_self _ nodes, rfl, ?_⟩
      rw [Registry.connectionsIn_composite known opens]
      simp [within.connectionsOn_eq_nil uses fresh.1, rest.connectionsOn_eq_nil uses fresh.2, connectionsOn_connect]
    · have listed : inner ∈ introduced deeper := List.mem_filterMap.2 ⟨i, within', introduces⟩
      obtain ⟨node', inside, created, emitted⟩ := ihWithin distinctWithin i within' introduces
      refine ⟨node', Node.flattenAll_children_subset _ _ _ _ _ inside, created, ?_⟩
      have differ : own ≠ inner := fun same => fresh.1 (same ▸ listed)
      have notBeside : inner ∉ introduced out := fun late => apart inner listed inner late rfl
      simp [emitted, rest.connectionsOn_eq_nil uses notBeside, connectionsOn_connect_of_ne differ]
    · have listed : inner ∈ introduced out := List.mem_filterMap.2 ⟨i, beside, introduces⟩
      obtain ⟨node', inside, created, emitted⟩ := ihRest distinctRest i beside introduces
      refine ⟨node', Node.flattenAll_subset _ _ inside, created, ?_⟩
      have differ : own ≠ inner := fun same => fresh.2 (same ▸ listed)
      have notWithin : inner ∉ introduced deeper := fun early => apart inner early inner listed rfl
      simp [emitted, within.connectionsOn_eq_nil uses notWithin, connectionsOn_connect_of_ne differ]
    · cases silent.symm.trans introduces

end Links

/-! ## Whole bodies -/

section Bodies

variable {d : ProcessDefinition} {graph : ProcessGraph} {options : Options} {session : Session} {node : Node}

theorem Body.mem_nodeIds {body : Body} {i : Instruction} {unique type : String} (member : i ∈ body.instructions)
    (creates : i.kind = .node unique type) : unique ∈ body.nodeIds :=
  List.mem_filterMap.2 ⟨i, member, by rw [creates]⟩

/-- A node that is created has a known type. -/
theorem exists_type_of_mem_nodeIds (accepted : ProcessGraph.ofDefinition d = .ok graph)
    (generated : generate graph .builtin options = .ok session) (member : node ∈ Node.flattenAll graph.nodes)
    (created : node.header.uniqueId ∈ session.body.nodeIds) :
    ∃ type, BuiltinType.ofTag? node.header.type = some type := by
  obtain ⟨_, _, _, built⟩ := built_of_ofDefinition accepted
  rw [nodeIds_of_generate generated, List.mem_map] at created
  obtain ⟨v, visited, same⟩ := created
  have inside : v.node ∈ Node.flattenAll graph.nodes := Node.visitsAll_sublist.subset (List.mem_map_of_mem visited)
  obtain ⟨_, _, _, _, known⟩ := ProcessGraph.mem_visits_iff.1 visited
  rw [Node.eq_of_uniqueId_eq built.nodup_uniqueIds inside member same] at known
  obtain ⟨type, tagged, _⟩ := Registry.exists_ofTag?_of_find?_builtin known
  exact ⟨type, tagged⟩

/-- The nodes that a handle stands for are nodes of the graph. -/
theorem ProcessGraph.Addresses.mem_flattenAll {before : List Instruction} {handle : String} {siblings : List Node}
    (h : graph.Addresses before handle siblings) (member : node ∈ siblings) : node ∈ Node.flattenAll graph.nodes := by
  rcases h with ⟨_, rfl⟩ | ⟨outer, among, rfl, _⟩
  · exact Node.subset_flattenAll _ member
  · exact Node.flattenAll_children_subset_of_mem among (Node.subset_flattenAll _ member)

/-- **The connections in a body**: on the factory those of the process, on the handle of a node those that are emitted
for the node, once each and in order, and none on any other handle. -/
structure ProcessGraph.LinkedBy (graph : ProcessGraph) (registry : Registry) (out : List Instruction) : Prop where
  root : connectionsOn rootHandle out = graph.connections.map (connect rootHandle)
  inside : ∀ node ∈ Node.flattenAll graph.nodes, ∀ i ∈ out, i.kind = .node node.header.uniqueId node.header.type →
    ∀ handle, i.declares? = some handle →
      connectionsOn handle out = (registry.connectionsIn node).map (connect handle)
  nowhere : ∀ handle, handle ≠ rootHandle → handle ∉ introduced out → connectionsOn handle out = []

/-- What is around the nodes of a process connects nodes on the factory only. -/
theorem connectionsOn_enclosed (handle : String) (declarations : SortedMap Variable) (connections : List Connection)
    (inside : List Instruction) :
    connectionsOn handle (declareVariables options rootHandle declarations ++ inside ++
      connections.map (connect rootHandle)) =
        connectionsOn handle inside ++ connectionsOn handle (connections.map (connect rootHandle)) := by
  rw [connectionsOn_append, connectionsOn_append, connectionsOn_declareVariables, List.nil_append]

/-- **The connections in a generated body** are those of the graph, in the nodes that are entered. -/
theorem linkedBy_of_generate {registry : Registry} (uses : registry.UsesBuiltins)
    (accepted : ProcessGraph.ofDefinition d = .ok graph) (generated : generate graph registry options = .ok session) :
    graph.LinkedBy registry session.body.instructions := by
  obtain ⟨_, _, _, built⟩ := built_of_ofDefinition accepted
  obtain ⟨out, walk, body⟩ := generate_eq_ok_iff.1 generated
  have introduces := walk.introduces uses
  have same : introduced session.body.instructions = introduced out := by
    rw [body, introduced_append, introduced_append, introduced_declareVariables, introduced_connect, List.nil_append,
      List.append_nil]
  refine ⟨?_, fun node member i emitted creates handle declares => ?_, fun handle differ absent => ?_⟩
  · rw [body, connectionsOn_enclosed, walk.connectionsOn_eq_nil uses introduces.notRoot, connectionsOn_connect,
      List.nil_append]
  · have listed : handle ∈ introduced out := same ▸ List.mem_filterMap.2 ⟨i, emitted, declares⟩
    have differ : rootHandle ≠ handle := fun root => introduces.notRoot (root ▸ listed)
    rw [body] at emitted
    rcases mem_enclosed emitted with within | ⟨_, silent⟩
    · obtain ⟨node', member', created, links⟩ := walk.links uses introduces.distinct i within declares
      obtain ⟨unique, _⟩ := InstructionKind.node.inj (creates.symm.trans created)
      rw [Node.eq_of_uniqueId_eq built.nodup_uniqueIds member member' unique, body, connectionsOn_enclosed, links,
        connectionsOn_connect_of_ne differ, List.append_nil]
    · cases silent.symm.trans declares
  · rw [same] at absent
    rw [body, connectionsOn_enclosed, walk.connectionsOn_eq_nil uses absent,
      connectionsOn_connect_of_ne (Ne.symm differ), List.append_nil]

/-- **Whatever a body connects was created before**, if its type is known. -/
theorem joins_of_generate {registry : Registry} (uses : registry.UsesBuiltins)
    (accepted : ProcessGraph.ofDefinition d = .ok graph) (generated : generate graph registry options = .ok session) :
    Placed (graph.Joins registry) [] session.body.instructions := by
  obtain ⟨_, _, _, built⟩ := built_of_ofDefinition accepted
  obtain ⟨out, walk, body⟩ := generate_eq_ok_iff.1 generated
  rw [body, placed_append, placed_append]
  refine ⟨⟨ProcessGraph.placed_declareVariables _ _, ?_⟩, ?_⟩
  · exact walk.joins uses built.connections_isAmong (List.Subset.refl _) _
  · refine ProcessGraph.placed_connect (.inl ⟨rfl, rfl⟩) (connections_isAmong_of_ofDefinition accepted) ?_
    intro node member generator known
    obtain ⟨j, created, creates⟩ := walk.exists_creation node member generator known
    exact ⟨j, by simp [created], creates⟩

/-- **The connections that are emitted, and their ends.** A connection joins two nodes of the graph that its handle
stands for. Each of the two that is of a built-in type was created before on the same handle. One of another type is not
created at all, and the connection stays: on each handle, the connections of its graph are emitted once each and in
order. -/
theorem endpoints_of_generate (accepted : ProcessGraph.ofDefinition d = .ok graph)
    (generated : generate graph .builtin options = .ok session) :
    (∀ before i after source target, session.body.instructions = before ++ i :: after →
      i.kind = .connection source target → ∃ siblings, graph.Addresses before i.handle siblings ∧
        ∀ id ∈ [source, target], ∃ node ∈ siblings, node.header.id = id ∧
          (∀ type, BuiltinType.ofTag? node.header.type = some type →
            ∃ j ∈ before, j.Creates i.handle node.header) ∧
          (BuiltinType.ofTag? node.header.type = none → node.header.uniqueId ∉ session.body.nodeIds)) ∧
      graph.LinkedBy .builtin session.body.instructions := by
  refine ⟨fun before i after source target split connects => ?_,
    linkedBy_of_generate Registry.usesBuiltins_builtin accepted generated⟩
  have placed := joins_of_generate Registry.usesBuiltins_builtin accepted generated
  rw [split] at placed
  obtain ⟨siblings, stands, ends⟩ := of_placed placed source target connects
  refine ⟨siblings, stands, fun id listed => ?_⟩
  obtain ⟨node, member, same, created⟩ := ends id listed
  refine ⟨node, member, same, fun type tagged => ?_, fun untagged present => ?_⟩
  · exact created type.generator (by rw [Registry.find?_builtin, tagged]; rfl)
  · obtain ⟨type, tagged⟩ := exists_type_of_mem_nodeIds accepted generated (stands.mem_flattenAll member) present
    cases tagged.symm.trans untagged

end Bodies

/-- A process with a node in it that joins a start, a script, which has an unknown type, and an end. -/
def gappedDefinition : ProcessDefinition where
  id := "orders"
  name := none
  version := none
  declarations := .empty
  nodes := [
    ⟨"box", "sub", none, .empty, none,
      some [
        ⟨"open", "start", none, .empty, none, none, []⟩,
        ⟨"run", "script", none, .empty, none, none, []⟩,
        ⟨"done", "end", none, .empty, none, none, []⟩],
      [⟨"open", "run", none⟩, ⟨"run", "done", none⟩]⟩]
  connections := []

/-- What is generated from the process: the script is left out, the connections to it are not. -/
theorem exists_session_of_gappedDefinition : ∃ graph session before i after,
    ProcessGraph.ofDefinition gappedDefinition = .ok graph ∧ generate graph .builtin .default = .ok session ∧
      session.body.instructions = before ++ i :: after ∧ i.kind = .connection "open" "run" ∧ i.handle = "sub_box" ∧
      session.body.nodeIds = ["box", "box:open", "box:done"] ∧
      (Node.flattenAll graph.nodes).map (fun node => (node.header.id, node.header.uniqueId)) =
        [("box", "box"), ("open", "box:open"), ("run", "box:run"), ("done", "box:done")] := by
  have outcome : (ProcessGraph.ofDefinition gappedDefinition).toOption.map (fun graph =>
      ((Node.flattenAll graph.nodes).map fun node => (node.header.id, node.header.uniqueId),
        (generate graph .builtin .default).toOption.map fun session =>
          (session.body.nodeIds, session.body.instructions.map fun i => (i.kind, i.handle)))) =
      some ([("box", "box"), ("open", "box:open"), ("run", "box:run"), ("done", "box:done")],
        some (["box", "box:open", "box:done"],
          [(.node "box" "sub", "factory"), (.node "box:open" "start", "sub_box"),
            (.node "box:done" "end", "sub_box")] ++ (.connection "open" "run", "sub_box") ::
              [(.connection "run" "done", "sub_box"), (.close "box", "sub_box")])) := by
    decide +kernel
  obtain ⟨graph, built, same⟩ := Option.map_eq_some_iff.1 outcome
  obtain ⟨nodes, rest⟩ := Prod.mk.inj same
  obtain ⟨session, given, same⟩ := Option.map_eq_some_iff.1 rest
  obtain ⟨created, entries⟩ := Prod.mk.inj same
  obtain ⟨before, behind, split, _, entries⟩ := List.map_eq_append_iff.1 entries
  obtain ⟨i, after, rfl, entry, _⟩ := List.map_eq_cons_iff.1 entries
  obtain ⟨kind, handle⟩ := Prod.mk.inj entry
  exact ⟨graph, session, before, i, after, Except.toOption_eq_some_iff.1 built, Except.toOption_eq_some_iff.1 given,
    split, kind, handle, created, nodes⟩

/-- The node around the others has both connections in it, and gets a handle for them. -/
theorem exists_box_of_gappedDefinition {graph : ProcessGraph} {session : Session}
    (accepted : ProcessGraph.ofDefinition gappedDefinition = .ok graph)
    (generated : generate graph .builtin .default = .ok session) :
    ∃ box ∈ Node.flattenAll graph.nodes, ∃ i ∈ session.body.instructions,
      i.kind = .node box.header.uniqueId box.header.type ∧ i.declares? = some "sub_box" ∧
        (Registry.builtin.connectionsIn box).map (connect "sub_box") =
          [connect "sub_box" ⟨"open", "run", none⟩, connect "sub_box" ⟨"run", "done", none⟩] := by
  have known : (ProcessGraph.ofDefinition gappedDefinition).toOption.bind (fun graph =>
      (Node.flattenAll graph.nodes).head?.map fun box =>
        ((box.header.uniqueId, box.header.type), Registry.builtin.connectionsIn box)) =
      some (("box", "sub"), [⟨"open", "run", none⟩, ⟨"run", "done", none⟩]) := by decide +kernel
  have started : (ProcessGraph.ofDefinition gappedDefinition).toOption.bind (fun graph =>
      (generate graph .builtin .default).toOption.bind fun session =>
        session.body.instructions.head?.map fun i => (i.kind, i.declares?)) =
      some (.node "box" "sub", some "sub_box") := by decide +kernel
  rw [Except.toOption_eq_some_iff.2 accepted, Option.bind_some] at known started
  rw [Except.toOption_eq_some_iff.2 generated, Option.bind_some] at started
  obtain ⟨box, first, same⟩ := Option.map_eq_some_iff.1 known
  obtain ⟨i, emitted, same'⟩ := Option.map_eq_some_iff.1 started
  obtain ⟨named, listed⟩ := Prod.mk.inj same
  obtain ⟨unique, type⟩ := Prod.mk.inj named
  obtain ⟨creates, declares⟩ := Prod.mk.inj same'
  refine ⟨box, List.mem_of_head? first, i, List.mem_of_head? emitted, ?_, declares, ?_⟩
  · rw [creates, unique, type]
  · rw [listed]
    rfl

theorem endpoints_of_generate_gap : ∃ graph session before i after siblings,
    ProcessGraph.ofDefinition gappedDefinition = .ok graph ∧ generate graph .builtin .default = .ok session ∧
      session.body.instructions = before ++ i :: after ∧ i.kind = .connection "open" "run" ∧
      graph.Addresses before i.handle siblings ∧
      (∀ id ∈ ["open", "run"], ∃ node ∈ siblings, node.header.id = id ∧
        (∀ type, BuiltinType.ofTag? node.header.type = some type → ∃ j ∈ before, j.Creates i.handle node.header) ∧
        (BuiltinType.ofTag? node.header.type = none → node.header.uniqueId ∉ session.body.nodeIds)) ∧
      connectionsOn rootHandle session.body.instructions = [] ∧
      connectionsOn "sub_box" session.body.instructions =
        [connect "sub_box" ⟨"open", "run", none⟩, connect "sub_box" ⟨"run", "done", none⟩] := by
  obtain ⟨graph, session, before, i, after, accepted, generated, split, connects, _⟩ :=
    exists_session_of_gappedDefinition
  obtain ⟨ends, linked⟩ := endpoints_of_generate accepted generated
  obtain ⟨siblings, stands, ends⟩ := ends before i after "open" "run" split connects
  obtain ⟨box, member, j, emitted, creates, declares, inside⟩ := exists_box_of_gappedDefinition accepted generated
  obtain ⟨_, none, _⟩ := built_of_ofDefinition accepted
  refine ⟨graph, session, before, i, after, siblings, accepted, generated, split, connects, stands, ends, ?_, ?_⟩
  · rw [linked.root, none]
    rfl
  · rw [linked.inside box member j emitted creates "sub_box" declares, inside]

/-- The ends of a connection need not be created: one to a script is emitted, though no script is. -/
theorem not_created_before_connected : ¬ ∀ (d : ProcessDefinition) (graph : ProcessGraph) (options : Options)
    (session : Session) (before after : List Instruction) (i : Instruction) (source target : String),
    ProcessGraph.ofDefinition d = .ok graph → generate graph .builtin options = .ok session →
      session.body.instructions = before ++ i :: after → i.kind = .connection source target →
        ∃ siblings, graph.Addresses before i.handle siblings ∧
          ∀ id ∈ [source, target], ∃ node ∈ siblings, node.header.id = id ∧
            ∃ j ∈ before, j.Creates i.handle node.header := by
  intro created
  obtain ⟨graph, session, before, i, after, accepted, generated, split, connects, _, ids, nodes⟩ :=
    exists_session_of_gappedDefinition
  obtain ⟨siblings, stands, ends⟩ := created _ _ _ _ _ _ _ _ _ accepted generated split connects
  obtain ⟨node, member, named, j, earlier, creates, _⟩ := ends "run" (by simp)
  have present : node.header.uniqueId ∈ session.body.nodeIds :=
    Body.mem_nodeIds (by rw [split]; exact List.mem_append_left _ earlier) creates
  have listed := List.mem_map_of_mem (f := fun node : Node => (node.header.id, node.header.uniqueId))
    (stands.mem_flattenAll member)
  rw [nodes, named] at listed
  have unique : node.header.uniqueId = "box:run" := by simpa using listed
  rw [ids, unique] at present
  exact absurd present (by decide)

end ProcessCompiler
