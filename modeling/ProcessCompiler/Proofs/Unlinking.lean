import ProcessCompiler.Proofs.Construction
import ProcessCompiler.Proofs.Visits

/-!
# Connections do not steer a compilation

Nodes are compiled in the order of their lists, so connections, cycles among them, have no say in what is compiled. A
graph without its connections is refused with the same error, or the same is generated from it but for the instructions
that connect nodes.

* `Node.unlinked`: a node without the connections in it.
* `Walk.unlinked`: a walk over nodes without connections.
* `ProcessGraph.unlinked_of_ofDefinition`: the graph of a definition without connections.
* `generate_unlinked`: what is generated from a graph without connections.
* `generate_eq_of_unlinked_eq`: definitions that differ in connections only.
-/

namespace ProcessCompiler

/-! ## Without connections -/

mutual

/-- A node of a definition without the connections in it. -/
def NodeDefinition.unlinked : NodeDefinition → NodeDefinition
  | ⟨id, type, name, attributes, declarations, none, _⟩ => ⟨id, type, name, attributes, declarations, none, []⟩
  | ⟨id, type, name, attributes, declarations, some nodes, _⟩ =>
    ⟨id, type, name, attributes, declarations, some (NodeDefinition.unlinkedAll nodes), []⟩

/-- Nodes of a definition without the connections in them. -/
def NodeDefinition.unlinkedAll : List NodeDefinition → List NodeDefinition
  | [] => []
  | definition :: rest => definition.unlinked :: NodeDefinition.unlinkedAll rest

end

/-- **A definition without connections**, at the root and in all composite nodes. -/
def ProcessDefinition.unlinked (d : ProcessDefinition) : ProcessDefinition :=
  { d with nodes := NodeDefinition.unlinkedAll d.nodes, connections := [] }

mutual

/-- A node of a graph without the connections in it. -/
def Node.unlinked : Node → Node
  | .plain header => .plain header
  | .composite header own nodes _ => .composite header own (Node.unlinkedAll nodes) []

/-- Nodes of a graph without the connections in them. -/
def Node.unlinkedAll : List Node → List Node
  | [] => []
  | node :: nodes => node.unlinked :: Node.unlinkedAll nodes

end

/-- A graph without connections. -/
def ProcessGraph.unlinked (graph : ProcessGraph) : ProcessGraph :=
  { graph with nodes := Node.unlinkedAll graph.nodes, connections := [] }

/-- Whether an instruction connects two nodes. -/
def Instruction.connects (i : Instruction) : Bool :=
  match i.kind with
  | .connection _ _ => true
  | _ => false

/-- The instructions that do not connect nodes. -/
def unlinkedOf (out : List Instruction) : List Instruction := out.filter fun i => !i.connects

/-- What is generated, without the instructions that connect nodes. -/
def Session.unlinked (s : Session) : Session := { s with body := ⟨unlinkedOf s.body.instructions⟩ }

theorem NodeDefinition.id_unlinked (definition : NodeDefinition) : definition.unlinked.id = definition.id := by
  obtain ⟨id, type, name, attributes, declarations, _ | nodes, connections⟩ := definition <;> rw [unlinked]

@[simp] theorem Node.header_unlinked (node : Node) : node.unlinked.header = node.header := by
  cases node with
  | plain _ => rw [unlinked]
  | composite _ _ _ _ =>
    rw [unlinked]
    rfl

section Instructions

variable {options : Options} {handle : String}

@[simp] theorem unlinkedOf_append (out more : List Instruction) :
    unlinkedOf (out ++ more) = unlinkedOf out ++ unlinkedOf more := List.filter_append ..

@[simp] theorem unlinkedOf_creation_cons (header : NodeHeader) (code : Code) (out : List Instruction) :
    unlinkedOf (.creation handle header code :: out) = .creation handle header code :: unlinkedOf out := rfl

@[simp] theorem unlinkedOf_closing_cons (header : NodeHeader) (out : List Instruction) :
    unlinkedOf (.closing handle header :: out) = .closing handle header :: unlinkedOf out := rfl

@[simp] theorem unlinkedOf_declareVariables (declarations : SortedMap Variable) :
    unlinkedOf (declareVariables options handle declarations) = declareVariables options handle declarations := by
  rw [unlinkedOf, List.filter_eq_self]
  intro i member
  obtain ⟨entry, _, rfl⟩ := List.mem_map.1 member
  rfl

@[simp] theorem unlinkedOf_connect (connections : List Connection) :
    unlinkedOf (connections.map (connect handle)) = [] := by
  rw [unlinkedOf, List.filter_eq_nil_iff]
  intro i member
  obtain ⟨c, _, rfl⟩ := List.mem_map.1 member
  exact Bool.false_ne_true

end Instructions

/-! ## Walks -/

/-- No generator looks at connections. -/
theorem Generator.draft_unlinked (generator : Generator) (site : Site) (node : Node) :
    generator.draft site node.unlinked = generator.draft site node := by
  cases node with
  | plain header => rw [Node.unlinked]
  | composite header own children connections =>
    rw [Node.unlinked]
    cases generator <;> rfl

/-- **A walk is one over the nodes without connections**, which connects nothing. -/
theorem Walk.unlinked {plan : Plan} {handle : String} {scope : ScopeId} {nodes : List Node} {m n : Metadata}
    {out : List Instruction} (walk : Walk plan handle scope nodes m out n) :
    Walk plan handle scope (Node.unlinkedAll nodes) m (unlinkedOf out) n := by
  induction walk with
  | done =>
    rw [Node.unlinkedAll]
    exact .done
  | @skip _ _ node _ _ _ _ unknown rest ih =>
    rw [Node.unlinkedAll]
    apply Walk.skip
    · rw [Node.header_unlinked]
      exact unknown
    · rw [Node.header_unlinked]
      exact ih
  | @leaf _ _ node _ m _ _ generator _ code known closed drafted rest ih =>
    rw [Node.unlinkedAll, unlinkedOf_creation_cons, ← Node.header_unlinked node]
    refine .leaf ?_ closed ?_ ih
    · rw [Node.header_unlinked]
      exact known
    · rw [Generator.draft_unlinked]
      exact drafted
  | @composite _ inner _ own header _ _ connections _ _ _ _ _ _ _ _ known opens nested drafted named within rest
      ihWithin ihRest =>
    have drafted' := drafted
    rw [← Generator.draft_unlinked, Node.unlinked] at drafted'
    have walked := Walk.composite known opens nested drafted' named ihWithin ihRest
    rw [Node.unlinkedAll, Node.unlinked]
    simpa using walked

/-! ## Refusals -/

/-- A visit to a node without the connections in it. -/
def Visit.unlinked (v : Visit) : Visit := { v with node := v.node.unlinked }

section Refusals

variable {registry : Registry} {plan : Plan} {handle : String}

/-- Whether a node is refused does not depend on connections. -/
theorem Visit.refusal?_unlinked (v : Visit) : v.unlinked.refusal? plan handle = v.refusal? plan handle := by
  have placed : v.unlinked.misplacement? plan.scopes = v.misplacement? plan.scopes := by
    obtain ⟨generator, scope, header | ⟨header, own, children, connections⟩⟩ := v
    · rw [unlinked, Node.unlinked]
    · rw [unlinked, Node.unlinked, misplacement?, misplacement?]
  have rejected : v.unlinked.rejection? plan handle = v.rejection? plan handle := by
    rw [rejection?, rejection?, unlinked, Generator.draft_unlinked, Node.header_unlinked]
  rw [refusal?, refusal?, placed, rejected]

mutual

theorem Node.visits_unlinked (scope : ScopeId) (node : Node) :
    node.unlinked.visits registry scope = (node.visits registry scope).map Visit.unlinked := by
  match node with
  | .plain header =>
    rw [Node.unlinked, Node.visits]
    cases registry.find? header.type with
    | none => rfl
    | some generator =>
      simp only [List.map_cons, List.map_nil, Visit.unlinked, Node.unlinked]
  | .composite header own children connections =>
    rw [Node.unlinked, Node.visits, Node.visits]
    cases registry.find? header.type with
    | none => rfl
    | some generator =>
      have inside := Node.visitsAll_unlinked own children
      cases opens : generator.opens with
      | false => simp [opens, Visit.unlinked, Node.unlinked]
      | true => simp [opens, Visit.unlinked, Node.unlinked, inside]

/-- **A walk comes to the same nodes without connections.** -/
theorem Node.visitsAll_unlinked (scope : ScopeId) (nodes : List Node) :
    Node.visitsAll registry scope (Node.unlinkedAll nodes) =
      (Node.visitsAll registry scope nodes).map Visit.unlinked := by
  match nodes with
  | [] => rw [Node.unlinkedAll, Node.visitsAll, List.map_nil]
  | node :: nodes =>
    rw [Node.unlinkedAll, Node.visitsAll, Node.visitsAll, List.map_append, Node.visits_unlinked scope node,
      Node.visitsAll_unlinked scope nodes]

end

end Refusals

/-! ## Definitions -/

mutual

theorem Node.unlinked_of_ofDefinition {definition : NodeDefinition} {parent : Option String} {enclosing : ScopeId}
    {arena later : Arena} {node : Node} (h : Node.ofDefinition parent enclosing arena definition = .ok (node, later)) :
    Node.ofDefinition parent enclosing arena definition.unlinked = .ok (node.unlinked, later) := by
  match definition with
  | ⟨id, type, name, attributes, declarations, none, connections⟩ =>
    obtain ⟨bare, rfl, rfl⟩ := Node.ofDefinition_plain_eq_ok_iff.1 h
    exact Node.ofDefinition_plain_eq_ok_iff.2 ⟨bare, rfl, rfl⟩
  | ⟨id, type, name, attributes, declarations, some inner, connections⟩ =>
    obtain ⟨children, inside, _, rfl⟩ := Node.ofDefinition_composite_eq_ok_iff.1 h
    rw [NodeDefinition.unlinked, Node.unlinked]
    exact Node.ofDefinition_composite_eq_ok_iff.2 ⟨_, Node.unlinkedAll_of_ofDefinitions inside, rfl, rfl⟩

/-- Nodes without connections are built without connections, with the same scopes. -/
theorem Node.unlinkedAll_of_ofDefinitions {definitions : List NodeDefinition} {graph : String}
    {parent : Option String} {enclosing : ScopeId} {seen : List String} {arena later : Arena} {nodes : List Node}
    (h : Node.ofDefinitions graph parent enclosing seen arena definitions = .ok (nodes, later)) :
    Node.ofDefinitions graph parent enclosing seen arena (NodeDefinition.unlinkedAll definitions) =
      .ok (Node.unlinkedAll nodes, later) := by
  match definitions with
  | [] =>
    rw [Node.ofDefinitions] at h
    cases h
    rw [NodeDefinition.unlinkedAll, Node.ofDefinitions, Node.unlinkedAll]
  | definition :: rest =>
    obtain ⟨node, middle, others, checked, first, more, rfl⟩ := Node.ofDefinitions_cons_eq_ok_iff.1 h
    rw [NodeDefinition.unlinkedAll, Node.ofDefinitions_cons_eq_ok_iff, NodeDefinition.id_unlinked]
    have built := Node.unlinked_of_ofDefinition first
    exact ⟨_, _, _, checked, built, Node.unlinkedAll_of_ofDefinitions more, rfl⟩

end

/-- **A definition that is accepted is accepted without connections**, and has the graph without connections. -/
theorem ProcessGraph.unlinked_of_ofDefinition {d : ProcessDefinition} {graph : ProcessGraph}
    (accepted : ProcessGraph.ofDefinition d = .ok graph) :
    ProcessGraph.ofDefinition d.unlinked = .ok graph.unlinked := by
  obtain ⟨nodes, last, inside, _, rfl⟩ := ProcessGraph.ofDefinition_eq_ok_iff.1 accepted
  exact ProcessGraph.ofDefinition_eq_ok_iff.2 ⟨_, _, Node.unlinkedAll_of_ofDefinitions inside, rfl, rfl⟩

/-! ## Whole graphs -/

/-- **From a graph without connections the same is generated**, but for the instructions that connect nodes; or it is
refused with the same error. -/
theorem generate_unlinked {registry : Registry} (uses : registry.UsesBuiltins) (graph : ProcessGraph)
    (options : Options) :
    generate graph.unlinked registry options = (generate graph registry options).map Session.unlinked := by
  cases outcome : generate graph registry options with
  | error e =>
    have refused := (generate_eq_error_iff uses rootHandle).1 outcome
    show generate graph.unlinked registry options = .error e
    rw [generate_eq_error_iff uses rootHandle, ProcessGraph.visits, ProcessGraph.unlinked, Node.visitsAll_unlinked,
      List.findSome?_map, ← refused, ProcessGraph.visits]
    congr 1
    funext v
    exact Visit.refusal?_unlinked v
  | ok session =>
    obtain ⟨out, walk, body⟩ := generate_eq_ok_iff.1 outcome
    show generate graph.unlinked registry options = .ok session.unlinked
    rw [generate_eq_ok_iff]
    refine ⟨unlinkedOf out, walk.unlinked, ?_⟩
    show unlinkedOf session.body.instructions = _
    rw [body]
    simp [ProcessGraph.unlinked]

/-- **Connections never steer a compilation.** Of two definitions that differ in their connections only, at the root or
in composite nodes, both are refused with the same error, or the same is generated from both but for the instructions
that connect nodes. It is also what is generated without any connection, so that no cycle of connections is followed. -/
theorem generate_eq_of_unlinked_eq {d d' : ProcessDefinition} {graph graph' : ProcessGraph}
    (alike : d.unlinked = d'.unlinked) (accepted : ProcessGraph.ofDefinition d = .ok graph)
    (accepted' : ProcessGraph.ofDefinition d' = .ok graph') (bindings : List (String × BuiltinType))
    (options : Options) :
    (generate graph (.ofTypes bindings) options).map Session.unlinked =
        (generate graph' (.ofTypes bindings) options).map Session.unlinked ∧
      ∃ bare, ProcessGraph.ofDefinition d.unlinked = .ok bare ∧
        generate bare (.ofTypes bindings) options =
          (generate graph (.ofTypes bindings) options).map Session.unlinked := by
  have uses := Registry.usesBuiltins_ofTypes bindings
  have bare := ProcessGraph.unlinked_of_ofDefinition accepted
  have bare' := ProcessGraph.unlinked_of_ofDefinition accepted'
  have same : graph.unlinked = graph'.unlinked := by
    rw [alike, bare'] at bare
    exact (Except.ok.inj bare).symm
  constructor
  · rw [← generate_unlinked uses, ← generate_unlinked uses, same]
  · exact ⟨graph.unlinked, bare, generate_unlinked uses graph options⟩

/-- A process with a loop at the root and a sub-process, each with the given connections. -/
def linkedDefinition (outer inner : List Connection) : ProcessDefinition where
  id := "orders"
  name := none
  version := none
  declarations := .ofList [("total", ⟨.number, none, none⟩)]
  nodes := [
    ⟨"begin", "start", none, .empty, none, none, []⟩,
    ⟨"each", "group", none, .empty, none,
      some [⟨"sum", "task", none, .ofList [("expr", .string "total")], none, none, []⟩,
        ⟨"note", "script", none, .empty, none, none, []⟩], inner⟩,
    ⟨"stop", "end", none, .empty, none, none, []⟩]
  connections := outer

/-- The process with cycles, a self loop and an edge that comes twice. -/
def tangledDefinition : ProcessDefinition := linkedDefinition
  [⟨"begin", "each", none⟩, ⟨"each", "begin", none⟩, ⟨"each", "begin", some "again"⟩, ⟨"stop", "stop", none⟩]
  [⟨"sum", "note", none⟩, ⟨"note", "sum", none⟩, ⟨"note", "sum", none⟩]

/-- The process with one edge. -/
def straightDefinition : ProcessDefinition := linkedDefinition [⟨"begin", "stop", none⟩] []

/-- Tags for the nodes of the process, one of them no usual one. -/
def linkedBindings : List (String × BuiltinType) :=
  [("start", .start), ("task", .task), ("group", .subProcess), ("end", .finish)]

theorem generate_eq_of_unlinked_eq_tangled : ∃ graph graph' session session',
    tangledDefinition.unlinked = straightDefinition.unlinked ∧
      ProcessGraph.ofDefinition tangledDefinition = .ok graph ∧
      ProcessGraph.ofDefinition straightDefinition = .ok graph' ∧
      generate graph (.ofTypes linkedBindings) ⟨true, false, "rt"⟩ = .ok session ∧
      generate graph' (.ofTypes linkedBindings) ⟨true, false, "rt"⟩ = .ok session' ∧
      session.body.size = 13 ∧ session'.body.size = 7 ∧ session.unlinked = session'.unlinked := by
  have sizes : (tangledDefinition.session? (.ofTypes linkedBindings) ⟨true, false, "rt"⟩).map (·.body.size) =
      some 13 := by
    decide +kernel
  have sizes' : (straightDefinition.session? (.ofTypes linkedBindings) ⟨true, false, "rt"⟩).map (·.body.size) =
      some 7 := by
    decide +kernel
  obtain ⟨session, found, size⟩ := Option.map_eq_some_iff.1 sizes
  obtain ⟨session', found', size'⟩ := Option.map_eq_some_iff.1 sizes'
  obtain ⟨graph, accepted, generated⟩ := ProcessDefinition.session?_eq_some_iff.1 found
  obtain ⟨graph', accepted', generated'⟩ := ProcessDefinition.session?_eq_some_iff.1 found'
  have alike : tangledDefinition.unlinked = straightDefinition.unlinked := rfl
  obtain ⟨same, _⟩ := generate_eq_of_unlinked_eq alike accepted accepted' linkedBindings ⟨true, false, "rt"⟩
  rw [generated, generated'] at same
  exact ⟨graph, graph', session, session', alike, accepted, accepted', generated, generated', size, size',
    Except.ok.inj same⟩

end ProcessCompiler
