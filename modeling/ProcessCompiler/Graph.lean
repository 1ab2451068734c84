import ProcessCompiler.Scope

/-!
# Process graphs

A graph is a definition whose ids were checked, with a unique id on every node and a scope on every composite one.

* `ProcessGraph.ofDefinition`: builds the graph, or names the first thing that is wrong.
* `ProcessGraph.find?`: the node with a unique id.
-/

namespace ProcessCompiler

open Json

/-- What every node of a graph has. The unique id is the ids from the root down to the node, joined by colons. -/
structure NodeHeader where
  id : String
  uniqueId : String
  type : String
  name : Option String
  attributes : SortedMap Value

/-- A node of a graph. -/
inductive Node where
  | plain (header : NodeHeader)
  | composite (header : NodeHeader) (scope : ScopeId) (nodes : List Node) (connections : List Connection)

/-- A graph with the arena of its scopes. -/
structure ProcessGraph where
  id : String
  name : Option String
  version : Option String
  nodes : List Node
  connections : List Connection
  scopes : Arena

/-! ## Nodes -/

namespace Node

/-- What the node has in common with every node. -/
def header : Node → NodeHeader
  | .plain header => header
  | .composite header _ _ _ => header

/-- The nodes of its sub-graph. -/
def children : Node → List Node
  | .plain _ => []
  | .composite _ _ nodes _ => nodes

/-- Its own scope. -/
def scope? : Node → Option ScopeId
  | .plain _ => none
  | .composite _ scope _ _ => some scope

/-- The connections of its sub-graph. -/
def connections? : Node → Option (List Connection)
  | .plain _ => none
  | .composite _ _ _ connections => some connections

mutual

/-- How many nodes a node has in it, itself included. -/
def count : Node → Nat
  | .plain _ => 1
  | .composite _ _ nodes _ => countAll nodes + 1

/-- How many nodes are in nodes, themselves included. -/
def countAll : List Node → Nat
  | [] => 0
  | node :: nodes => node.count + countAll nodes

end

mutual

/-- The node and all nodes in it, each before the nodes in it. -/
def flatten : Node → List Node
  | .plain header => [.plain header]
  | .composite header scope nodes connections => .composite header scope nodes connections :: flattenAll nodes

/-- The nodes and all nodes in them, each before the nodes in it. -/
def flattenAll : List Node → List Node
  | [] => []
  | node :: nodes => node.flatten ++ flattenAll nodes

end

mutual

/-- Gives other scopes to composite nodes, by their unique ids. -/
def rescope (scopes : String → Option ScopeId) : Node → Node
  | .plain header => .plain header
  | .composite header scope nodes connections =>
    .composite header ((scopes header.uniqueId).getD scope) (rescopeAll scopes nodes) connections

/-- Gives other scopes to composite nodes among nodes and in them. -/
def rescopeAll (scopes : String → Option ScopeId) : List Node → List Node
  | [] => []
  | node :: nodes => node.rescope scopes :: rescopeAll scopes nodes

end

end Node

/-! ## Building a graph -/

/-- Why a definition has no graph. A graph is named by the process id or by the unique id of the node it is in. -/
inductive GraphError where
  | emptyNodeId (graph : String)
  | reservedSeparator (graph id : String)
  | duplicateNodeId (graph id : String)
  | unknownEndpoint (graph source target missing : String)
  | strayVariables (id type : String)
  deriving DecidableEq

/-- The wording of a graph error. -/
def GraphError.message : GraphError → String
  | .emptyNodeId graph => "[G001] Node in graph '" ++ graph ++ "' has an empty id"
  | .duplicateNodeId graph id => "[G002] Duplicate node id '" ++ id ++ "' in graph '" ++ graph ++ "'"
  | .unknownEndpoint graph source target missing =>
    "[G003] Connection " ++ source ++ " -> " ++ target ++ " in graph '" ++ graph ++ "' references unknown node '" ++
      missing ++ "'"
  | .strayVariables id type =>
    "[G004] Node '" ++ id ++ "' (type '" ++ type ++ "') declares variables but has no child nodes"
  | .reservedSeparator graph id =>
    "[G005] Node id '" ++ id ++ "' in graph '" ++ graph ++ "' contains reserved separator ':'"

/-- What joins the ids of a unique id. -/
def idSeparator : Char := ':'

/-- The unique id of a node inside the node with another unique id, or at the root. -/
def uniqueId : Option String → String → String
  | none, id => id
  | some parent, id => parent ++ String.ofList [idSeparator] ++ id

/-- The first endpoint of a connection that is not among the ids. -/
def missingEndpoint? (ids : List String) (c : Connection) : Option String :=
  if !ids.contains c.source then some c.source
  else if !ids.contains c.target then some c.target
  else none

/-- Checks that connections join nodes with the given ids. -/
def checkConnections (graph : String) (ids : List String) : List Connection → Except GraphError Unit
  | [] => .ok ()
  | c :: rest =>
    match missingEndpoint? ids c with
    | some missing => .error (.unknownEndpoint graph c.source c.target missing)
    | none => checkConnections graph ids rest

/-- Checks the id of a node against those of the nodes before it. -/
def checkId (graph : String) (seen : List String) (id : String) : Except GraphError Unit :=
  if id = "" then .error (.emptyNodeId graph)
  else if idSeparator ∈ id.toList then .error (.reservedSeparator graph id)
  else if id ∈ seen then .error (.duplicateNodeId graph id)
  else .ok ()

/-- Adds the scope of a composite node. -/
def openScope (arena : Arena) (enclosing : ScopeId) (declarations : Option (SortedMap Variable)) : ScopeId × Arena :=
  arena.push ⟨declarations.getD .empty, some enclosing⟩

mutual

/-- Builds a node in a scope. A composite node's scope comes before those of the nodes in it. -/
def Node.ofDefinition (parent : Option String) (enclosing : ScopeId) (arena : Arena) :
    NodeDefinition → Except GraphError (Node × Arena)
  | ⟨id, type, name, attributes, declarations, none, _⟩ =>
    let unique := uniqueId parent id
    if declarations.any (fun v => !v.isEmpty) then .error (.strayVariables unique type)
    else .ok (.plain ⟨id, unique, type, name, attributes⟩, arena)
  | ⟨id, type, name, attributes, declarations, some nodes, connections⟩ => do
    let unique := uniqueId parent id
    let (scope, arena) := openScope arena enclosing declarations
    let (children, arena) ← Node.ofDefinitions unique (some unique) scope [] arena nodes
    checkConnections unique (children.map (·.header.id)) connections
    pure (.composite ⟨id, unique, type, name, attributes⟩ scope children connections, arena)

/-- Builds the nodes of a list, after nodes with the ids `seen`. -/
def Node.ofDefinitions (graph : String) (parent : Option String) (enclosing : ScopeId) (seen : List String)
    (arena : Arena) : List NodeDefinition → Except GraphError (List Node × Arena)
  | [] => .ok ([], arena)
  | definition :: rest => do
    checkId graph seen definition.id
    let (node, arena) ← Node.ofDefinition parent enclosing arena definition
    let (nodes, arena) ← Node.ofDefinitions graph parent enclosing (definition.id :: seen) arena rest
    pure (node :: nodes, arena)

end

namespace ProcessGraph

/-- The scope of the process variables. -/
def rootScope : ScopeId := ⟨0⟩

/-- Builds the graph of a definition. -/
def ofDefinition (d : ProcessDefinition) : Except GraphError ProcessGraph := do
  let (root, arena) := Arena.empty.root d.declarations
  let (nodes, arena) ← Node.ofDefinitions d.id none root [] arena d.nodes
  checkConnections d.id (nodes.map (·.header.id)) d.connections
  pure ⟨d.id, d.name, d.version, nodes, d.connections, arena⟩

/-- How many nodes the graph has, at all depths. -/
def nodeCount (graph : ProcessGraph) : Nat := Node.countAll graph.nodes

/-- Gives other scopes to composite nodes, by their unique ids. -/
def rescope (graph : ProcessGraph) (scopes : String → Option ScopeId) : ProcessGraph :=
  { graph with nodes := Node.rescopeAll scopes graph.nodes }

end ProcessGraph

/-! ## Finding a node -/

/-- The parts of a text between separators. -/
def splitChars (separator : Char) : List Char → List (List Char)
  | [] => [[]]
  | c :: cs =>
    if c = separator then [] :: splitChars separator cs
    else
      match splitChars separator cs with
      | [] => [[c]]
      | part :: parts => (c :: part) :: parts

/-- The node at the end of a path of ids. -/
def Node.findPath? (nodes : List Node) : List String → Option Node
  | [] => none
  | id :: rest =>
    match nodes.find? (fun node => node.header.id == id) with
    | none => none
    | some node => if rest.isEmpty then some node else findPath? node.children rest

/-- The node with a unique id. -/
def ProcessGraph.find? (graph : ProcessGraph) (unique : String) : Option Node :=
  Node.findPath? graph.nodes ((splitChars idSeparator unique.toList).map String.ofList)

end ProcessCompiler
