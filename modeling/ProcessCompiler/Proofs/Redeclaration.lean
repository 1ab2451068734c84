import ProcessCompiler.Proofs.UniqueIds

/-!
# Other variables in one node

Two definitions may differ in the variables of one composite node. Their graphs then have the same nodes, as scopes are
numbered by where they are opened, and their arenas differ in the scope of that node alone.

* `Node.numbered`: the node of a definition, by the number of scopes before it.
* `NodeDefinition.Redeclared`: definitions that differ in the variables of one composite node.
* `Agrees`: how the arenas of such definitions stand to each other.
* `ProcessDefinition.Redeclared.agrees`: the graphs have the same nodes, and the arenas agree.
-/

namespace ProcessCompiler

/-! ## Numbers of scopes -/

mutual

/-- How many scopes a node opens, with the nodes in it. -/
def NodeDefinition.scopeCount : NodeDefinition → Nat
  | ⟨_, _, _, _, _, none, _⟩ => 0
  | ⟨_, _, _, _, _, some nodes, _⟩ => NodeDefinition.scopeCountAll nodes + 1

/-- How many scopes nodes open, with the nodes in them. -/
def NodeDefinition.scopeCountAll : List NodeDefinition → Nat
  | [] => 0
  | definition :: rest => definition.scopeCount + NodeDefinition.scopeCountAll rest

end

mutual

/-- **The node of a definition**, if so many scopes were opened before. Variables do not matter. -/
def Node.numbered (parent : Option String) (opened : Nat) : NodeDefinition → Node
  | ⟨id, type, name, attributes, _, none, _⟩ => .plain ⟨id, uniqueId parent id, type, name, attributes⟩
  | ⟨id, type, name, attributes, _, some nodes, connections⟩ =>
    .composite ⟨id, uniqueId parent id, type, name, attributes⟩ ⟨opened⟩
      (Node.numberedAll (some (uniqueId parent id)) (opened + 1) nodes) connections

/-- The nodes of definitions, if so many scopes were opened before the first. -/
def Node.numberedAll (parent : Option String) (opened : Nat) : List NodeDefinition → List Node
  | [] => []
  | definition :: rest =>
    Node.numbered parent opened definition :: Node.numberedAll parent (opened + definition.scopeCount) rest

end

mutual

theorem numbered_of_ofDefinition {definition : NodeDefinition} {parent : Option String} {enclosing : ScopeId}
    {arena later : Arena} {node : Node} (h : Node.ofDefinition parent enclosing arena definition = .ok (node, later)) :
    node = Node.numbered parent arena.size definition ∧ later.size = arena.size + definition.scopeCount := by
  match definition with
  | ⟨id, type, name, attributes, declarations, none, connections⟩ =>
    obtain ⟨_, rfl, rfl⟩ := Node.ofDefinition_plain_eq_ok_iff.1 h
    exact ⟨rfl, rfl⟩
  | ⟨id, type, name, attributes, declarations, some inner, connections⟩ =>
    obtain ⟨children, inside, _, rfl⟩ := Node.ofDefinition_composite_eq_ok_iff.1 h
    obtain ⟨rfl, size⟩ := numberedAll_of_ofDefinitions inside
    have grown : later.size = arena.size + 1 + NodeDefinition.scopeCountAll inner := size
    refine ⟨rfl, ?_⟩
    rw [grown, NodeDefinition.scopeCount]
    omega

/-- **Nodes that are built are numbered**: the scopes come in the order in which they are opened. -/
theorem numberedAll_of_ofDefinitions {definitions : List NodeDefinition} {graph : String} {parent : Option String}
    {enclosing : ScopeId} {seen : List String} {arena later : Arena} {nodes : List Node}
    (h : Node.ofDefinitions graph parent enclosing seen arena definitions = .ok (nodes, later)) :
    nodes = Node.numberedAll parent arena.size definitions ∧
      later.size = arena.size + NodeDefinition.scopeCountAll definitions := by
  match definitions with
  | [] =>
    rw [Node.ofDefinitions] at h
    cases h
    exact ⟨rfl, rfl⟩
  | definition :: rest =>
    obtain ⟨node, middle, others, _, first, more, rfl⟩ := Node.ofDefinitions_cons_eq_ok_iff.1 h
    obtain ⟨rfl, size⟩ := numbered_of_ofDefinition first
    obtain ⟨rfl, size'⟩ := numberedAll_of_ofDefinitions more
    rw [size] at size' ⊢
    refine ⟨rfl, ?_⟩
    rw [size', NodeDefinition.scopeCountAll, Nat.add_assoc]

end

theorem nodes_eq_numberedAll {d : ProcessDefinition} {graph : ProcessGraph}
    (accepted : ProcessGraph.ofDefinition d = .ok graph) : graph.nodes = Node.numberedAll none 1 d.nodes := by
  obtain ⟨nodes, last, inside, _, rfl⟩ := ProcessGraph.ofDefinition_eq_ok_iff.1 accepted
  exact (numberedAll_of_ofDefinitions inside).1

/-! ## Definitions -/

/-- **Nodes that differ in the variables of one composite node**, which has a unique id below a parent. -/
inductive NodeDefinition.Redeclared : Option String → String → List NodeDefinition → List NodeDefinition → Prop
  | here {parent : Option String} {id type : String} {name : Option String} {attributes : SortedMap Json.Value}
      {inner rest : List NodeDefinition} {connections : List Connection}
      (declarations declarations' : Option (SortedMap Variable)) :
      Redeclared parent (uniqueId parent id)
        (⟨id, type, name, attributes, declarations, some inner, connections⟩ :: rest)
        (⟨id, type, name, attributes, declarations', some inner, connections⟩ :: rest)
  | inside {parent : Option String} {unique id type : String} {name : Option String}
      {attributes : SortedMap Json.Value} {declarations : Option (SortedMap Variable)}
      {inner inner' rest : List NodeDefinition} {connections : List Connection}
      (within : Redeclared (some (uniqueId parent id)) unique inner inner') :
      Redeclared parent unique (⟨id, type, name, attributes, declarations, some inner, connections⟩ :: rest)
        (⟨id, type, name, attributes, declarations, some inner', connections⟩ :: rest)
  | later {parent : Option String} {unique : String} {first : NodeDefinition} {rest rest' : List NodeDefinition}
      (beside : Redeclared parent unique rest rest') : Redeclared parent unique (first :: rest) (first :: rest')

/-- Definitions that differ in the variables of one composite node, which has a unique id. -/
structure ProcessDefinition.Redeclared (d d' : ProcessDefinition) (unique : String) : Prop where
  same : d' = { d with nodes := d'.nodes }
  nodes : NodeDefinition.Redeclared none unique d.nodes d'.nodes

theorem NodeDefinition.Redeclared.scopeCountAll_eq {parent : Option String} {unique : String}
    {definitions definitions' : List NodeDefinition} (h : Redeclared parent unique definitions definitions') :
    scopeCountAll definitions' = scopeCountAll definitions := by
  induction h with
  | here declarations declarations' => simp only [scopeCountAll, scopeCount]
  | inside within ih => simp only [scopeCountAll, scopeCount, ih]
  | later beside ih => rw [scopeCountAll, scopeCountAll, ih]

/-- The nodes of a graph do not depend on variables. -/
theorem NodeDefinition.Redeclared.numberedAll_eq {parent : Option String} {unique : String}
    {definitions definitions' : List NodeDefinition} (h : Redeclared parent unique definitions definitions') :
    ∀ opened, Node.numberedAll parent opened definitions' = Node.numberedAll parent opened definitions := by
  induction h with
  | here declarations declarations' =>
    intro opened
    simp only [Node.numberedAll, Node.numbered, scopeCount]
  | inside within ih =>
    intro opened
    simp only [Node.numberedAll, Node.numbered, scopeCount, ih, within.scopeCountAll_eq]
  | later beside ih =>
    intro opened
    rw [Node.numberedAll, Node.numberedAll, ih]

/-! ## Arenas -/

/-- **Arenas that agree on nodes, but for what one node declares and what is in that node.** -/
inductive Agrees (arena arena' : Arena) (node : Node) : ScopeId → List Node → Prop
  | done {enclosing : ScopeId} : Agrees arena arena' node enclosing []
  | plain {enclosing : ScopeId} {header : NodeHeader} {nodes : List Node}
      (rest : Agrees arena arena' node enclosing nodes) : Agrees arena arena' node enclosing (.plain header :: nodes)
  | composite {enclosing own : ScopeId} {header : NodeHeader} {children nodes : List Node}
      {connections : List Connection} {declarations : SortedMap Variable}
      (found : arena.get? own = some ⟨declarations, some enclosing⟩)
      (found' : arena'.get? own = some ⟨declarations, some enclosing⟩) (newer : enclosing.index < own.index)
      (within : Agrees arena arena' node own children) (rest : Agrees arena arena' node enclosing nodes) :
      Agrees arena arena' node enclosing (.composite header own children connections :: nodes)
  | redeclared {enclosing own : ScopeId} {header : NodeHeader} {children nodes : List Node}
      {connections : List Connection} (here : Node.composite header own children connections = node)
      (rest : Agrees arena arena' node enclosing nodes) :
      Agrees arena arena' node enclosing (.composite header own children connections :: nodes)

section Arenas

variable {arena arena' : Arena} {parent : Option String} {enclosing : ScopeId} {nodes : List Node}

/-- Arenas agree on nodes that are built from the same definitions. -/
theorem Built.agrees {definitions : List NodeDefinition} (built : Built arena parent enclosing definitions nodes)
    (node : Node) : Built arena' parent enclosing definitions nodes → Agrees arena arena' node enclosing nodes := by
  induction built with
  | done => exact fun _ => .done
  | plain valid fresh bare rest ih =>
    intro built'
    cases built' with
    | plain _ _ _ rest' => exact .plain (ih rest')
  | composite valid fresh found newer within joined rest ihWithin ihRest =>
    intro built'
    cases built' with
    | composite _ _ found' _ within' _ rest' => exact .composite found found' newer (ihWithin within') (ihRest rest')

/-- **Arenas agree on nodes whose definitions differ in the variables of one node**, but for that node. -/
theorem NodeDefinition.Redeclared.agrees {unique : String} {definitions definitions' : List NodeDefinition}
    (differ : Redeclared parent unique definitions definitions') :
    ∀ {enclosing : ScopeId} {nodes : List Node}, Built arena parent enclosing definitions nodes →
      Built arena' parent enclosing definitions' nodes →
        ∃ node ∈ Node.flattenAll nodes, node.header.uniqueId = unique ∧ Agrees arena arena' node enclosing nodes := by
  induction differ with
  | here declarations declarations' =>
    intro enclosing nodes built built'
    cases built with
    | composite _ _ _ _ _ _ rest =>
      cases built' with
      | composite _ _ _ _ _ _ rest' =>
        exact ⟨_, Node.mem_flattenAll_self _ _, rfl, .redeclared rfl (rest.agrees _ rest')⟩
  | inside within ih =>
    intro enclosing nodes built built'
    cases built with
    | composite _ _ found newer inner _ rest =>
      cases built' with
      | composite _ _ found' _ inner' _ rest' =>
        obtain ⟨node, member, named, agrees⟩ := ih inner inner'
        exact ⟨node, Node.flattenAll_children_subset _ _ _ _ _ member, named,
          .composite found found' newer agrees (rest.agrees node rest')⟩
  | later beside ih =>
    intro enclosing nodes built built'
    cases built with
    | plain _ _ _ rest =>
      cases built' with
      | plain _ _ _ rest' =>
        obtain ⟨node, member, named, agrees⟩ := ih rest rest'
        exact ⟨node, Node.flattenAll_subset _ _ member, named, .plain agrees⟩
    | composite _ _ found newer inner _ rest =>
      cases built' with
      | composite _ _ found' _ inner' _ rest' =>
        obtain ⟨node, member, named, agrees⟩ := ih rest rest'
        exact ⟨node, Node.flattenAll_subset _ _ member, named,
          .composite found found' newer (inner.agrees node inner') agrees⟩

end Arenas

/-- **Definitions that differ in the variables of one composite node have graphs with the same nodes**, whose arenas
agree but for what that node declares. -/
theorem ProcessDefinition.Redeclared.agrees {d d' : ProcessDefinition} {graph graph' : ProcessGraph} {unique : String}
    (differ : d.Redeclared d' unique) (accepted : ProcessGraph.ofDefinition d = .ok graph)
    (accepted' : ProcessGraph.ofDefinition d' = .ok graph') :
    graph'.nodes = graph.nodes ∧ ∃ node ∈ Node.flattenAll graph.nodes, node.header.uniqueId = unique ∧
      Agrees graph.scopes graph'.scopes node ProcessGraph.rootScope graph.nodes := by
  have same : graph'.nodes = graph.nodes := by
    rw [nodes_eq_numberedAll accepted, nodes_eq_numberedAll accepted', differ.nodes.numberedAll_eq]
  obtain ⟨_, _, _, built⟩ := built_of_ofDefinition accepted
  obtain ⟨_, _, _, built'⟩ := built_of_ofDefinition accepted'
  rw [same] at built'
  exact ⟨same, differ.nodes.agrees built built'⟩

end ProcessCompiler
