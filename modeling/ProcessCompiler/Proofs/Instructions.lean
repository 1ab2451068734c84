import ProcessCompiler.Proofs.Generator
import ProcessCompiler.Proofs.Registry
import ProcessCompiler.Proofs.UniqueIds

/-!
# The instructions of a walk

The code of a node that gets a builder starts by giving the builder a name. Which handle a node has is thus written in
the body, at the one instruction that creates the node.

* `Instruction.declares?`: the handle that an instruction introduces.
* `Walk.nodeIds_sublist`: the nodes that are created come in the order of the graph, each at most once.
* `handleOf?_of_mem`: the handle of a node is the one that its instruction introduces.
-/

namespace ProcessCompiler

/-! ## Reading instructions -/

/-- The name that code gives to a builder before anything else. -/
def Code.bound? : Code → Option String
  | .word "let" :: .word "mut" :: .word handle :: _ => some handle
  | _ => none

namespace Instruction

/-- The node that an instruction creates. -/
def nodeId? (i : Instruction) : Option String :=
  match i.kind with
  | .node id _ => some id
  | _ => none

/-- The handle that an instruction introduces: only those that create nodes do so. -/
def declares? (i : Instruction) : Option String :=
  match i.kind with
  | .node _ _ => Code.bound? i.code
  | _ => none

@[simp] theorem nodeId?_creation (handle : String) (node : NodeHeader) (code : Code) :
    (creation handle node code).nodeId? = some node.uniqueId := rfl

@[simp] theorem nodeId?_closing (handle : String) (node : NodeHeader) : (closing handle node).nodeId? = none := rfl

@[simp] theorem nodeId?_connect (handle : String) (c : Connection) : (connect handle c).nodeId? = none := rfl

@[simp] theorem nodeId?_declareVariable (options : Options) (handle : String) (entry : String × Variable) :
    (declareVariable options handle entry).nodeId? = none := rfl

@[simp] theorem declares?_closing (handle : String) (node : NodeHeader) : (closing handle node).declares? = none := rfl

@[simp] theorem declares?_connect (handle : String) (c : Connection) : (connect handle c).declares? = none := rfl

@[simp] theorem declares?_declareVariable (options : Options) (handle : String) (entry : String × Variable) :
    (declareVariable options handle entry).declares? = none := rfl

/-- The instruction that creates a node of a built-in type introduces the handle that the code is for. -/
theorem declares?_of_drafted {type : BuiltinType} {a : type.Attributes} {site : Site} {node : NodeHeader}
    {own? : Option ScopeId} {requests : List Request} {code : String → Code}
    (h : type.Drafted a site node own? requests code) (handle inner : String) :
    (creation handle node (code inner)).declares? = some inner := by
  show Code.bound? (code inner) = some inner
  rw [h.built inner]
  rfl

end Instruction

/-- What a generator of a built-in type drafts on a walk is what its type drafts. -/
theorem Registry.UsesBuiltins.drafted {plan : Plan} (uses : plan.registry.UsesBuiltins) {handle tag : String}
    {scope : ScopeId} {node : Node} {generator : Generator} {requests : List Request} {code : String → Code}
    (known : plan.registry.find? tag = some generator)
    (drafted : generator.draft (plan.site handle scope) node = ⟨requests, .ok code⟩) :
    ∃ (type : BuiltinType) (a : type.Attributes), generator = type.generator ∧
      type.Drafted a (plan.site handle scope) node.header node.scope? requests code := by
  obtain ⟨type, rfl⟩ := uses _ _ known
  obtain ⟨a, said⟩ := BuiltinType.drafted_of_eq_ok drafted
  exact ⟨type, a, rfl, said⟩

theorem Registry.UsesBuiltins.drafted_composite {plan : Plan} (uses : plan.registry.UsesBuiltins) {handle tag : String}
    {scope own : ScopeId} {header : NodeHeader} {children : List Node} {connections : List Connection}
    {generator : Generator} {requests : List Request} {code : String → Code}
    (known : plan.registry.find? tag = some generator)
    (drafted : generator.draft (plan.site handle scope) (.composite header own children connections) =
      ⟨requests, .ok code⟩) :
    ∃ (type : BuiltinType) (a : type.Attributes), generator = type.generator ∧
      type.Drafted a (plan.site handle scope) header (some own) requests code :=
  uses.drafted known drafted

/-- The handle of the node with a unique id, as the instruction that creates the node introduces it. -/
def Body.handleOf? (body : Body) (unique : String) : Option String :=
  (body.instructions.find? (Body.creates unique)).bind Instruction.declares?

/-- What is around the nodes of a graph neither creates a node nor introduces a handle. -/
theorem mem_enclosed {options : Options} {handle : String} {declarations : SortedMap Variable}
    {connections : List Connection} {inside : List Instruction} {i : Instruction}
    (member : i ∈ declareVariables options handle declarations ++ inside ++ connections.map (connect handle)) :
    i ∈ inside ∨ i.nodeId? = none ∧ i.declares? = none := by
  rw [List.mem_append, List.mem_append] at member
  rcases member with (declares | within) | connects
  · obtain ⟨entry, _, rfl⟩ := List.mem_map.1 declares
    exact .inr ⟨rfl, rfl⟩
  · exact .inl within
  · obtain ⟨c, _, rfl⟩ := List.mem_map.1 connects
    exact .inr ⟨rfl, rfl⟩

/-- An instruction of a composite node and what is beside it creates the node, is one of those inside or beside, or
neither creates a node nor introduces a handle. -/
theorem mem_composite {options : Options} {handle inner : String} {header : NodeHeader} {code : Code}
    {declarations : SortedMap Variable} {connections : List Connection} {inside out : List Instruction}
    {i : Instruction}
    (member : i ∈ .creation handle header code :: (declareVariables options inner declarations ++ inside ++
      connections.map (connect inner) ++ [.closing inner header]) ++ out) :
    i = .creation handle header code ∨ i ∈ inside ∨ i ∈ out ∨ i.nodeId? = none ∧ i.declares? = none := by
  rw [List.cons_append, List.mem_cons, List.mem_append, List.mem_append, List.mem_singleton] at member
  rcases member with creates | (enclosed | closes) | beside
  · exact .inl creates
  · rcases mem_enclosed enclosed with within | nothing
    · exact .inr (.inl within)
    · exact .inr (.inr (.inr nothing))
  · rw [closes]
    exact .inr (.inr (.inr ⟨rfl, rfl⟩))
  · exact .inr (.inr (.inl beside))

/-! ## Nodes that are created -/

section NodeIds

variable {options : Options} {handle : String}

theorem filterMap_nodeId?_declareVariables (declarations : SortedMap Variable) :
    (declareVariables options handle declarations).filterMap Instruction.nodeId? = [] := by
  simp [declareVariables, List.filterMap_map, Function.comp_def]

theorem filterMap_nodeId?_connect (connections : List Connection) :
    (connections.map (connect handle)).filterMap Instruction.nodeId? = [] := by
  simp [List.filterMap_map, Function.comp_def]

theorem Node.uniqueIds_cons_sublist (node : Node) (nodes : List Node) :
    (node.header.uniqueId :: Node.uniqueIds nodes).Sublist (Node.uniqueIds (node :: nodes)) := by
  cases node with
  | plain header =>
    rw [Node.uniqueIds_plain]
    exact List.Sublist.refl _
  | composite header own children connections =>
    rw [Node.uniqueIds_composite]
    exact (List.sublist_append_right _ _).cons_cons _

theorem Node.uniqueIds_sublist (node : Node) (nodes : List Node) :
    (Node.uniqueIds nodes).Sublist (Node.uniqueIds (node :: nodes)) :=
  (List.sublist_cons_self _ _).trans (Node.uniqueIds_cons_sublist node nodes)

/-- The nodes that a walk creates are nodes of the graph, in the order of the graph. -/
theorem Walk.nodeIds_sublist {plan : Plan} {scope : ScopeId} {nodes : List Node} {m m' : Metadata}
    {out : List Instruction} (walk : Walk plan handle scope nodes m out m') :
    (out.filterMap Instruction.nodeId?).Sublist (Node.uniqueIds nodes) := by
  induction walk with
  | done => exact List.Sublist.slnil
  | skip unknown rest ih => exact (ih.cons _).trans (Node.uniqueIds_cons_sublist _ _)
  | leaf known closed drafted rest ih => exact (ih.cons_cons _).trans (Node.uniqueIds_cons_sublist _ _)
  | composite known opens nested drafted named within rest ihWithin ihRest =>
    rw [Node.uniqueIds_composite]
    simp only [List.filterMap_cons, Instruction.nodeId?_creation, List.filterMap_append,
      filterMap_nodeId?_declareVariables, filterMap_nodeId?_connect, Instruction.nodeId?_closing, List.filterMap_nil,
      List.nil_append, List.append_nil]
    exact (ihWithin.append ihRest).cons_cons _

/-- Of instructions that create distinct nodes, each is the first that creates its node. -/
theorem find?_creates_of_mem {instructions : List Instruction} {i : Instruction} {unique : String}
    (distinct : (instructions.filterMap Instruction.nodeId?).Nodup) (member : i ∈ instructions)
    (creates : i.nodeId? = some unique) : instructions.find? (Body.creates unique) = some i := by
  have creates_iff : ∀ j : Instruction, Body.creates unique j = true ↔ j.nodeId? = some unique := by
    rintro ⟨kind, handle, code⟩
    cases kind <;> simp [Body.creates, Instruction.nodeId?]
  induction instructions with
  | nil => cases member
  | cons first rest ih =>
    by_cases same : first.nodeId? = some unique
    · rw [List.find?_cons_of_pos ((creates_iff first).2 same)]
      rcases List.mem_cons.1 member with rfl | member
      · rfl
      · rw [List.filterMap_cons_some same] at distinct
        exact absurd (List.mem_filterMap.2 ⟨i, member, creates⟩) (List.nodup_cons.1 distinct).1
    · rw [List.find?_cons_of_neg (fun h => same ((creates_iff first).1 h))]
      rcases List.mem_cons.1 member with rfl | member
      · exact absurd creates same
      · exact ih (distinct.sublist ((List.sublist_cons_self _ _).filterMap _)) member

end NodeIds

/-- **The handle of a node is the one that its instruction introduces.** -/
theorem handleOf?_of_mem {d : ProcessDefinition} {graph : ProcessGraph} {registry : Registry} {options : Options}
    {session : Session} (accepted : ProcessGraph.ofDefinition d = .ok graph)
    (generated : generate graph registry options = .ok session) {i : Instruction} {unique : String}
    (member : i ∈ session.body.instructions) (creates : i.nodeId? = some unique) :
    session.body.handleOf? unique = i.declares? := by
  obtain ⟨_, _, _, built⟩ := built_of_ofDefinition accepted
  obtain ⟨out, walk, body⟩ := generate_eq_ok_iff.1 generated
  have distinct : (session.body.instructions.filterMap Instruction.nodeId?).Nodup := by
    rw [body, List.filterMap_append, List.filterMap_append, filterMap_nodeId?_declareVariables,
      filterMap_nodeId?_connect, List.nil_append, List.append_nil]
    exact built.nodup_uniqueIds.sublist walk.nodeIds_sublist
  rw [Body.handleOf?, find?_creates_of_mem distinct member creates]
  rfl

end ProcessCompiler
