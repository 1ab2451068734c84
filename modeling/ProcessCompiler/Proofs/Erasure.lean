import ProcessCompiler.Proofs.Ancestors
import ProcessCompiler.Proofs.Redeclaration

/-!
# Graphs read back

A graph keeps all that its definition says. Without unique ids, and with the variables of composite nodes read out of the
arena, it is the definition again, where variables that are left out read as none and a node that cannot have anything in
it has no connections. The arena has a scope for the process and one for each composite node, in the order of the nodes.

* `ProcessGraph.erase`: the definition that a graph is of.
* `ProcessDefinition.normalized`: what a graph keeps of a definition.
* `filterMap_scope?_numberedAll`: the scopes of the nodes, in order.
* `erase_of_ofDefinition`: a graph is of its definition, and what scopes it has.
-/

namespace ProcessCompiler

/-! ## Definitions and graphs as lists and without detail -/

namespace NodeDefinition

/-- Whether a node has a sub-graph. -/
def isComposite (definition : NodeDefinition) : Bool := definition.nodes.isSome

mutual

/-- The node and all nodes in it, each before the nodes in it. -/
def flatten : NodeDefinition → List NodeDefinition
  | ⟨id, type, name, attributes, declarations, none, connections⟩ =>
    [⟨id, type, name, attributes, declarations, none, connections⟩]
  | ⟨id, type, name, attributes, declarations, some nodes, connections⟩ =>
    ⟨id, type, name, attributes, declarations, some nodes, connections⟩ :: flattenAll nodes

/-- The nodes and all nodes in them, each before the nodes in it. -/
def flattenAll : List NodeDefinition → List NodeDefinition
  | [] => []
  | definition :: rest => definition.flatten ++ flattenAll rest

end

mutual

/-- The node with its variables written out. One without a sub-graph has no connections. -/
def normalized : NodeDefinition → NodeDefinition
  | ⟨id, type, name, attributes, declarations, none, _⟩ =>
    ⟨id, type, name, attributes, some (declarations.getD .empty), none, []⟩
  | ⟨id, type, name, attributes, declarations, some nodes, connections⟩ =>
    ⟨id, type, name, attributes, some (declarations.getD .empty), some (normalizedAll nodes), connections⟩

/-- The nodes with their variables written out. -/
def normalizedAll : List NodeDefinition → List NodeDefinition
  | [] => []
  | definition :: rest => definition.normalized :: normalizedAll rest

end

end NodeDefinition

/-- What a graph keeps of a definition. -/
def ProcessDefinition.normalized (d : ProcessDefinition) : ProcessDefinition :=
  { d with nodes := NodeDefinition.normalizedAll d.nodes }

mutual

/-- The definition of a node, with its variables as they are in the arena. -/
def Node.erase (scopes : Arena) : Node → NodeDefinition
  | .plain header => ⟨header.id, header.type, header.name, header.attributes, some .empty, none, []⟩
  | .composite header own nodes connections =>
    ⟨header.id, header.type, header.name, header.attributes,
      some (((scopes.get? own).map Scope.declarations).getD .empty), some (Node.eraseAll scopes nodes), connections⟩

/-- The definitions of nodes. -/
def Node.eraseAll (scopes : Arena) : List Node → List NodeDefinition
  | [] => []
  | node :: nodes => node.erase scopes :: Node.eraseAll scopes nodes

end

/-- **The definition that a graph is of.** -/
def ProcessGraph.erase (graph : ProcessGraph) : ProcessDefinition where
  id := graph.id
  name := graph.name
  version := graph.version
  declarations := ((graph.scopes.get? ProcessGraph.rootScope).map Scope.declarations).getD .empty
  nodes := Node.eraseAll graph.scopes graph.nodes
  connections := graph.connections

/-! ## Nodes that are built -/

namespace Built

variable {arena : Arena} {parent : Option String} {enclosing own : ScopeId} {definitions : List NodeDefinition}
  {above nodes around : List Node} {node : Node}

/-- **Nodes that are built are of their definitions.** -/
theorem eraseAll_eq (h : Built arena parent enclosing definitions nodes) :
    Node.eraseAll arena nodes = NodeDefinition.normalizedAll definitions := by
  induction h with
  | done => rfl
  | @plain _ _ _ _ _ _ _ _ declarations _ valid fresh bare rest ih =>
    have nothing : declarations.getD .empty = .empty := by
      cases declarations with
      | none => rfl
      | some v => exact SortedMap.eq_empty_of_isEmpty (bare v rfl)
    rw [Node.eraseAll, NodeDefinition.normalizedAll, Node.erase, NodeDefinition.normalized, nothing, ih]
  | composite valid fresh found newer within joined rest ihWithin ihRest =>
    rw [Node.eraseAll, NodeDefinition.normalizedAll, Node.erase, NodeDefinition.normalized, found, ihWithin, ihRest]
    rfl

/-- The scope of a composite node lies in the scope around the nodes, and what is in the node is built in it. -/
theorem inside_of_mem (h : Built arena parent enclosing definitions nodes) (member : node ∈ nodes)
    (owned : node.scope? = some own) : arena.parent? own = some enclosing ∧
      ∃ parent inner, Built arena parent own inner node.children := by
  induction h with
  | done => cases member
  | plain valid fresh bare rest ih =>
    rcases List.mem_cons.1 member with rfl | beside
    · cases owned
    · exact ih beside
  | composite valid fresh found newer within joined rest ihWithin ihRest =>
    rcases List.mem_cons.1 member with rfl | beside
    · cases owned
      exact ⟨by rw [Arena.parent?, found]; rfl, _, _, within⟩
    · exact ihRest beside

/-- **The scope of a composite node lies in that of the nearest composite node around it.** -/
theorem parent?_of_within (within : Node.Within above nodes around node) :
    ∀ {parent definitions}, Built arena parent (Node.scopeInside above) definitions nodes →
      node.scope? = some own → arena.parent? own = some (Node.scopeInside around) := by
  induction within with
  | here member => exact fun built owned => (built.inside_of_mem member owned).1
  | @inside above nodes around outer node member within ih =>
    intro parent definitions built owned
    cases outer with
    | plain header => exact within.not_nil.elim
    | composite header middle children connections =>
      obtain ⟨_, _, _, inside⟩ := built.inside_of_mem member rfl
      exact ih inside owned

end Built

/-! ## The order of the nodes -/

mutual

theorem Node.flatten_erase {scopes : Arena} {node : Node} :
    (node.erase scopes).flatten = node.flatten.map (Node.erase scopes) := by
  match node with
  | .plain header => rfl
  | .composite header own nodes connections =>
    rw [Node.erase, NodeDefinition.flatten, Node.flatten, List.map_cons, Node.erase, Node.flattenAll_eraseAll]

/-- The nodes of a graph stand in the order of their definitions. -/
theorem Node.flattenAll_eraseAll {scopes : Arena} {nodes : List Node} :
    NodeDefinition.flattenAll (Node.eraseAll scopes nodes) = (Node.flattenAll nodes).map (Node.erase scopes) := by
  match nodes with
  | [] => rfl
  | node :: nodes =>
    rw [Node.eraseAll, NodeDefinition.flattenAll, Node.flattenAll, List.map_append, Node.flatten_erase,
      Node.flattenAll_eraseAll]

end

mutual

theorem NodeDefinition.flatten_normalized {definition : NodeDefinition} :
    definition.normalized.flatten = definition.flatten.map NodeDefinition.normalized := by
  match definition with
  | ⟨id, type, name, attributes, declarations, none, connections⟩ => rfl
  | ⟨id, type, name, attributes, declarations, some nodes, connections⟩ =>
    rw [normalized, flatten, flatten, List.map_cons, normalized, NodeDefinition.flattenAll_normalizedAll]

theorem NodeDefinition.flattenAll_normalizedAll {definitions : List NodeDefinition} :
    NodeDefinition.flattenAll (NodeDefinition.normalizedAll definitions) =
      (NodeDefinition.flattenAll definitions).map NodeDefinition.normalized := by
  match definitions with
  | [] => rfl
  | definition :: rest =>
    rw [normalizedAll, flattenAll, flattenAll, List.map_append, NodeDefinition.flatten_normalized,
      NodeDefinition.flattenAll_normalizedAll]

end

mutual

theorem Node.count_eq {node : Node} : node.count = node.flatten.length := by
  match node with
  | .plain header => rfl
  | .composite header own nodes connections => rw [Node.count, Node.flatten, List.length_cons, Node.countAll_eq]

/-- Nodes are counted with all nodes in them. -/
theorem Node.countAll_eq {nodes : List Node} : Node.countAll nodes = (Node.flattenAll nodes).length := by
  match nodes with
  | [] => rfl
  | node :: nodes => rw [Node.countAll, Node.flattenAll, List.length_append, Node.count_eq, Node.countAll_eq]

end

/-! ## Scopes -/

mutual

theorem NodeDefinition.scopeCount_eq {definition : NodeDefinition} :
    definition.scopeCount = definition.flatten.countP NodeDefinition.isComposite := by
  match definition with
  | ⟨id, type, name, attributes, declarations, none, connections⟩ => rfl
  | ⟨id, type, name, attributes, declarations, some nodes, connections⟩ =>
    rw [scopeCount, flatten, List.countP_cons_of_pos rfl, NodeDefinition.scopeCountAll_eq]

/-- A scope is opened for each composite node. -/
theorem NodeDefinition.scopeCountAll_eq {definitions : List NodeDefinition} :
    NodeDefinition.scopeCountAll definitions =
      (NodeDefinition.flattenAll definitions).countP NodeDefinition.isComposite := by
  match definitions with
  | [] => rfl
  | definition :: rest =>
    rw [scopeCountAll, flattenAll, List.countP_append, NodeDefinition.scopeCount_eq, NodeDefinition.scopeCountAll_eq]

end

mutual

theorem filterMap_scope?_numbered {definition : NodeDefinition} {parent : Option String} {opened : Nat} :
    (Node.numbered parent opened definition).flatten.filterMap Node.scope? =
      (List.range' opened definition.scopeCount).map ScopeId.mk := by
  match definition with
  | ⟨id, type, name, attributes, declarations, none, connections⟩ => rfl
  | ⟨id, type, name, attributes, declarations, some nodes, connections⟩ =>
    have inside := @filterMap_scope?_numberedAll nodes (some (uniqueId parent id)) (opened + 1)
    rw [NodeDefinition.scopeCount, List.range'_succ, List.map_cons, ← inside]
    rfl

/-- **The scopes of the nodes have the numbers that follow on each other**, in the order of the nodes. -/
theorem filterMap_scope?_numberedAll {definitions : List NodeDefinition} {parent : Option String} {opened : Nat} :
    (Node.flattenAll (Node.numberedAll parent opened definitions)).filterMap Node.scope? =
      (List.range' opened (NodeDefinition.scopeCountAll definitions)).map ScopeId.mk := by
  match definitions with
  | [] => rfl
  | definition :: rest =>
    rw [Node.numberedAll, Node.flattenAll, List.filterMap_append, filterMap_scope?_numbered,
      filterMap_scope?_numberedAll, NodeDefinition.scopeCountAll, ← List.map_append, List.range'_append_1]

end

/-! ## Whole graphs -/

/-- A graph keeps the id, the name and the version of its process, and has the scopes that its nodes open. -/
theorem size_of_ofDefinition {d : ProcessDefinition} {graph : ProcessGraph}
    (accepted : ProcessGraph.ofDefinition d = .ok graph) : graph.name = d.name ∧ graph.version = d.version ∧
      graph.scopes.size = NodeDefinition.scopeCountAll d.nodes + 1 := by
  obtain ⟨nodes, last, inside, _, rfl⟩ := ProcessGraph.ofDefinition_eq_ok_iff.1 accepted
  exact ⟨rfl, rfl, (numberedAll_of_ofDefinitions inside).2.trans (Nat.add_comm _ _)⟩

/-- **A graph is of its definition, and has a scope for the process and one for each composite node.** The first is that
of the process, which nothing encloses. The others belong to the composite nodes, in the order of the nodes, and each
lies in the scope of the nearest composite node around its own, or in that of the process. -/
theorem erase_of_ofDefinition {d : ProcessDefinition} {graph : ProcessGraph}
    (accepted : ProcessGraph.ofDefinition d = .ok graph) :
    graph.erase = d.normalized ∧
      (Node.flattenAll graph.nodes).map (Node.erase graph.scopes) =
        (NodeDefinition.flattenAll d.nodes).map NodeDefinition.normalized ∧
      graph.scopes.size = (NodeDefinition.flattenAll d.nodes).countP NodeDefinition.isComposite + 1 ∧
      graph.scopes.get? ⟨0⟩ = some ⟨d.declarations, none⟩ ∧
      (Node.flattenAll graph.nodes).filterMap Node.scope? =
        (List.range' 1 ((NodeDefinition.flattenAll d.nodes).countP NodeDefinition.isComposite)).map ScopeId.mk ∧
      (∀ around node own, graph.Within around node → node.scope? = some own →
        graph.scopes.parent? own = some (Node.scopeInside around)) ∧
      graph.nodeCount = (NodeDefinition.flattenAll d.nodes).length := by
  obtain ⟨id, connections, root, built⟩ := built_of_ofDefinition accepted
  obtain ⟨name, version, size⟩ := size_of_ofDefinition accepted
  have order : (Node.flattenAll graph.nodes).map (Node.erase graph.scopes) =
      (NodeDefinition.flattenAll d.nodes).map NodeDefinition.normalized := by
    rw [← Node.flattenAll_eraseAll, built.eraseAll_eq, NodeDefinition.flattenAll_normalizedAll]
  refine ⟨?_, order, ?_, root, ?_, ?_, ?_⟩
  · rw [ProcessGraph.erase, id, name, version, root, built.eraseAll_eq, connections]
    rfl
  · rw [size, NodeDefinition.scopeCountAll_eq]
  · rw [nodes_eq_numberedAll accepted, filterMap_scope?_numberedAll, NodeDefinition.scopeCountAll_eq]
  · exact fun around node own within owned => Built.parent?_of_within within built owned
  · have counted := congrArg List.length order
    rw [List.length_map, List.length_map] at counted
    rw [ProcessGraph.nodeCount, Node.countAll_eq, counted]

/-- A process with variables at every depth and without, and a task that keeps connections to itself. -/
def layeredDefinition : ProcessDefinition where
  id := "orders"
  name := some "Orders"
  version := none
  declarations := .ofList [("total", ⟨.number, none, none⟩)]
  nodes := [
    ⟨"outer", "sub", none, .empty, some (.ofList [("row", ⟨.object, none, none⟩)]),
      some [
        ⟨"inner", "sub", none, .empty, none, some [], []⟩,
        ⟨"check", "task", none, .ofList [("expr", .string "row")], some .empty, none, [⟨"check", "check", none⟩]⟩],
      [⟨"inner", "check", none⟩]⟩,
    ⟨"beside", "legacy", none, .empty, none, some [⟨"stop", "end", none, .empty, none, none, []⟩], []⟩]
  connections := [⟨"outer", "beside", some "then"⟩]

theorem erase_of_ofDefinition_layered : ∃ graph, ProcessGraph.ofDefinition layeredDefinition = .ok graph ∧
    graph.erase = layeredDefinition.normalized ∧ graph.scopes.size = 4 ∧
      (Node.flattenAll graph.nodes).filterMap Node.scope? = [⟨1⟩, ⟨2⟩, ⟨3⟩] ∧ graph.nodeCount = 5 := by
  have built : (ProcessGraph.ofDefinition layeredDefinition).toOption.isSome = true := by decide +kernel
  obtain ⟨graph, given⟩ := Option.isSome_iff_exists.1 built
  have accepted := Except.toOption_eq_some_iff.1 given
  obtain ⟨same, _, size, _, scopes, _, counted⟩ := erase_of_ofDefinition accepted
  exact ⟨graph, accepted, same, size.trans (by decide +kernel), scopes.trans (by decide +kernel),
    counted.trans (by decide +kernel)⟩

end ProcessCompiler
