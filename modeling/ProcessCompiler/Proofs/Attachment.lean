import ProcessCompiler.Proofs.Ancestors
import ProcessCompiler.Proofs.Occurrences

/-!
# Where connections are attached

The connections of a definition belong to the process or to a node, and join what is directly in it. A node with a
sub-graph keeps its connections, in their order and with their labels. On a node without one there is nothing for them
to join: they are not in the graph, and nothing tells of them.

* `ProcessGraph.Attaches`: a connection of the sub-graph of a node.
* `Built.exists_attached`: what a node that is built has of the connections of its definition.
* `ProcessGraph.ofDefinition_pruned`: connections of nodes without a sub-graph make no difference.
* `attached_of_ofDefinition`: which connections a graph keeps.
-/

namespace ProcessCompiler

/-- A connection of the sub-graph of the node with a unique id. -/
def ProcessGraph.Attaches (graph : ProcessGraph) (unique : String) (c : Connection) : Prop :=
  ∃ node ∈ Node.flattenAll graph.nodes, node.header.uniqueId = unique ∧
    ∃ connections, node.connections? = some connections ∧ c ∈ connections

/-! ## Nodes with a sub-graph -/

namespace Built

variable {arena : Arena} {parent : Option String} {enclosing : ScopeId} {definitions inner : List NodeDefinition}
  {nodes : List Node} {definition : NodeDefinition}

/-- Among nodes that are built is the node of each definition: it has the connections if it has a sub-graph, in which
nodes are built as well. -/
theorem exists_of_mem (h : Built arena parent enclosing definitions nodes) (member : definition ∈ definitions) :
    ∃ node ∈ nodes, node.header.uniqueId = uniqueId parent definition.id ∧
      node.connections? = definition.nodes.map (fun _ => definition.connections) ∧
      ∀ inner ∈ definition.nodes,
        ∃ own, Built arena (some (uniqueId parent definition.id)) own inner node.children := by
  induction h with
  | done => cases member
  | plain valid fresh bare rest ih =>
    rcases List.mem_cons.1 member with rfl | beside
    · exact ⟨_, List.mem_cons_self, rfl, rfl, nofun⟩
    · obtain ⟨node, among, attached⟩ := ih beside
      exact ⟨node, List.mem_cons_of_mem _ among, attached⟩
  | composite valid fresh found newer within joined rest ihWithin ihRest =>
    rcases List.mem_cons.1 member with rfl | beside
    · refine ⟨_, List.mem_cons_self, rfl, rfl, ?_⟩
      rintro _ ⟨⟩
      exact ⟨_, within⟩
    · obtain ⟨node, among, attached⟩ := ihRest beside
      exact ⟨node, List.mem_cons_of_mem _ among, attached⟩

/-- **A node at any depth has the connections of its definition exactly if it has a sub-graph.** -/
theorem exists_attached {above around : List Enclosure} {unique : String}
    (occurs : NodeDefinition.Occurs parent above definitions unique around definition) :
    ∀ {enclosing : ScopeId} {nodes : List Node}, Built arena parent enclosing definitions nodes →
      ∃ node ∈ Node.flattenAll nodes, node.header.uniqueId = unique ∧
        node.connections? = definition.nodes.map (fun _ => definition.connections) := by
  induction occurs with
  | here member =>
    intro enclosing nodes built
    obtain ⟨node, among, named, attached, _⟩ := built.exists_of_mem member
    exact ⟨node, Node.subset_flattenAll _ among, named, attached⟩
  | inside member nested within ih =>
    intro enclosing nodes built
    obtain ⟨outer, among, _, _, inside⟩ := built.exists_of_mem member
    obtain ⟨own, children⟩ := inside _ nested
    obtain ⟨node, deeper, named, attached⟩ := ih children
    exact ⟨node, Node.flattenAll_children_subset_of_mem (Node.subset_flattenAll _ among) deeper, named, attached⟩

end Built

/-! ## Nodes without one -/

mutual

/-- The node without the connections that have no sub-graph to be in. -/
def NodeDefinition.pruned : NodeDefinition → NodeDefinition
  | ⟨id, type, name, attributes, declarations, none, _⟩ => ⟨id, type, name, attributes, declarations, none, []⟩
  | ⟨id, type, name, attributes, declarations, some nodes, connections⟩ =>
    ⟨id, type, name, attributes, declarations, some (NodeDefinition.prunedAll nodes), connections⟩

/-- The nodes without the connections that have no sub-graph to be in. -/
def NodeDefinition.prunedAll : List NodeDefinition → List NodeDefinition
  | [] => []
  | definition :: rest => definition.pruned :: NodeDefinition.prunedAll rest

end

/-- The definition without the connections that have no sub-graph to be in. -/
def ProcessDefinition.pruned (d : ProcessDefinition) : ProcessDefinition :=
  { d with nodes := NodeDefinition.prunedAll d.nodes }

@[simp] theorem NodeDefinition.id_pruned (definition : NodeDefinition) : definition.pruned.id = definition.id := by
  obtain ⟨id, type, name, attributes, declarations, nodes | nodes, connections⟩ := definition <;> rfl

mutual

theorem Node.ofDefinition_pruned (definition : NodeDefinition) {parent : Option String} {enclosing : ScopeId}
    {arena : Arena} :
    Node.ofDefinition parent enclosing arena definition.pruned =
      Node.ofDefinition parent enclosing arena definition := by
  match definition with
  | ⟨id, type, name, attributes, declarations, none, connections⟩ => rfl
  | ⟨id, type, name, attributes, declarations, some nodes, connections⟩ =>
    rw [NodeDefinition.pruned, Node.ofDefinition, Node.ofDefinition]
    simp only [Node.ofDefinitions_pruned nodes]

theorem Node.ofDefinitions_pruned (definitions : List NodeDefinition) {graph : String} {parent : Option String}
    {enclosing : ScopeId} {seen : List String} {arena : Arena} :
    Node.ofDefinitions graph parent enclosing seen arena (NodeDefinition.prunedAll definitions) =
      Node.ofDefinitions graph parent enclosing seen arena definitions := by
  match definitions with
  | [] => rfl
  | definition :: rest =>
    rw [NodeDefinition.prunedAll, Node.ofDefinitions, Node.ofDefinitions, NodeDefinition.id_pruned,
      Node.ofDefinition_pruned]
    simp only [Node.ofDefinitions_pruned rest]

end

/-- **Connections of nodes without a sub-graph make no difference**, neither to the graph nor to whether there is
one. -/
theorem ProcessGraph.ofDefinition_pruned (d : ProcessDefinition) :
    ProcessGraph.ofDefinition d.pruned = ProcessGraph.ofDefinition d := by
  rw [ProcessGraph.ofDefinition, ProcessGraph.ofDefinition, ProcessDefinition.pruned]
  simp only [Node.ofDefinitions_pruned]

/-! ## Whole graphs -/

/-- **A graph keeps the connections of the process and of the nodes with a sub-graph**, in their order and with their
labels, at every depth. Those of a node without a sub-graph are nowhere in the graph, and the definition is accepted
with them as without. -/
theorem attached_of_ofDefinition {d : ProcessDefinition} {graph : ProcessGraph}
    (accepted : ProcessGraph.ofDefinition d = .ok graph) :
    graph.connections = d.connections ∧
      (∀ unique above definition, d.Occurs unique above definition →
        (∃ node ∈ Node.flattenAll graph.nodes, node.header.uniqueId = unique ∧
          node.connections? = definition.nodes.map (fun _ => definition.connections)) ∧
        ∀ c ∈ definition.connections, graph.Attaches unique c ↔ definition.nodes.isSome) ∧
      ProcessGraph.ofDefinition d.pruned = .ok graph := by
  obtain ⟨_, root, _, built⟩ := built_of_ofDefinition accepted
  refine ⟨root, fun unique above definition occurs => ?_, (ProcessGraph.ofDefinition_pruned d).trans accepted⟩
  obtain ⟨node, among, named, attached⟩ := Built.exists_attached occurs built
  refine ⟨⟨node, among, named, attached⟩, fun c listed => ?_⟩
  constructor
  · rintro ⟨other, among', named', connections, kept, _⟩
    obtain rfl := Node.eq_of_uniqueId_eq built.nodup_uniqueIds among' among (named'.trans named.symm)
    rw [attached] at kept
    obtain ⟨inner, nested, _⟩ := Option.map_eq_some_iff.1 kept
    rw [nested]
    rfl
  · intro nested
    obtain ⟨inner, same⟩ := Option.isSome_iff_exists.1 nested
    exact ⟨node, among, named, definition.connections, by rw [attached, same]; rfl, listed⟩

/-- A process with a node whose end is reached, beside a task that has a connection and nothing to connect. -/
def looseDefinition : ProcessDefinition where
  id := "orders"
  name := none
  version := none
  declarations := .empty
  nodes := [
    ⟨"box", "sub", none, .empty, none,
      some [⟨"open", "start", none, .empty, none, none, []⟩, ⟨"done", "end", none, .empty, none, none, []⟩],
      [⟨"open", "done", some "always"⟩]⟩,
    ⟨"sum", "task", none, .empty, none, none, [⟨"sum", "box", some "then"⟩]⟩]
  connections := [⟨"sum", "box", none⟩]

/-- The process is accepted, and where the two nodes with a connection stand in it. -/
theorem exists_graph_of_looseDefinition : ∃ graph box sum, ProcessGraph.ofDefinition looseDefinition = .ok graph ∧
    looseDefinition.Occurs "box" [] box ∧ box.nodes.isSome ∧ ⟨"open", "done", some "always"⟩ ∈ box.connections ∧
      looseDefinition.Occurs "sum" [] sum ∧ sum.nodes = none ∧ ⟨"sum", "box", some "then"⟩ ∈ sum.connections := by
  have built : (ProcessGraph.ofDefinition looseDefinition).toOption.isSome = true := by decide +kernel
  obtain ⟨graph, given⟩ := Option.isSome_iff_exists.1 built
  refine ⟨graph, _, _, Except.toOption_eq_some_iff.1 given, .here List.mem_cons_self, rfl, List.mem_cons_self,
    .here (List.mem_cons_of_mem _ List.mem_cons_self), rfl, List.mem_cons_self⟩

theorem attached_of_ofDefinition_loose : ∃ graph, ProcessGraph.ofDefinition looseDefinition = .ok graph ∧
    graph.connections = [⟨"sum", "box", none⟩] ∧ graph.Attaches "box" ⟨"open", "done", some "always"⟩ ∧
      ¬ graph.Attaches "sum" ⟨"sum", "box", some "then"⟩ ∧
      ProcessGraph.ofDefinition looseDefinition.pruned = .ok graph := by
  obtain ⟨graph, box, sum, accepted, occurs, nested, listed, occurs', plain, listed'⟩ := exists_graph_of_looseDefinition
  obtain ⟨root, attached, same⟩ := attached_of_ofDefinition accepted
  refine ⟨graph, accepted, root, ((attached _ _ _ occurs).2 _ listed).2 nested, fun kept => ?_, same⟩
  have inside := ((attached _ _ _ occurs').2 _ listed').1 kept
  rw [plain] at inside
  cases inside

/-- A connection on a node without a sub-graph is dropped, and the definition is accepted all the same. -/
theorem not_attached_on_task : ¬ ∀ (d : ProcessDefinition) (graph : ProcessGraph) (unique : String)
    (above : List Enclosure) (definition : NodeDefinition) (c : Connection),
    ProcessGraph.ofDefinition d = .ok graph → d.Occurs unique above definition → c ∈ definition.connections →
      graph.Attaches unique c := by
  intro kept
  obtain ⟨graph, _, sum, accepted, _, _, _, occurs, plain, listed⟩ := exists_graph_of_looseDefinition
  obtain ⟨node, among, named, connections, has, _⟩ := kept _ _ _ _ _ _ accepted occurs listed
  obtain ⟨_, _, _, built⟩ := built_of_ofDefinition accepted
  obtain ⟨other, among', named', bare⟩ := Built.exists_attached occurs built
  obtain rfl := Node.eq_of_uniqueId_eq built.nodup_uniqueIds among among' (named.trans named'.symm)
  rw [bare, plain] at has
  cases has

end ProcessCompiler
