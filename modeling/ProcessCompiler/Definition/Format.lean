import ProcessCompiler.Definition

/-!
# Definitions as JSON

* `ProcessDefinition.ofText`, `ProcessDefinition.ofValue`: read a definition.
* `ProcessDefinition.write`: writes one, with what has its default left out.
-/

namespace ProcessCompiler

open Json

/-! ## Variables and connections -/

/-- The fields of a variable. -/
def variableRecord :=
  Record.cons (.required "type" (.enumeration VariableType.byName VariableType.name)) <|
  .cons (.optional "value" .any) <|
  .cons (.optional "description" .string) .nil

/-- Variables as JSON. -/
def Variable.codec : Codec Variable :=
  variableRecord.codec "Variable" (fun (type, value, description, ()) => ⟨type, value, description⟩)
    (fun v => (v.type, v.value, v.description, ()))

/-- The fields of a connection. -/
def connectionRecord :=
  Record.cons (.required "from" .string) <|
  .cons (.required "to" .string) <|
  .cons (.optional "label" .string) .nil

/-- Connections as JSON. -/
def Connection.codec : Codec Connection :=
  connectionRecord.codec "ConnectionDefinition" (fun (source, target, label, ()) => ⟨source, target, label⟩)
    (fun c => (c.source, c.target, c.label, ()))

/-! ## Nodes -/

/-- The fields of a node, given how the list of its nodes is written and read. -/
def nodeRecord {γ : Type} (children : Codec γ) :=
  Record.cons (.required "id" .string) <|
  .cons (.required "type" .string) <|
  .cons (.optional "name" .string) <|
  .cons (.withDefault "attributes" (.map .any) .empty SortedMap.isEmpty) <|
  .cons (.optional "variables" (.map Variable.codec)) <|
  .cons (.optional "nodes" children) <|
  .cons (.withDefault "connections" (.list Connection.codec) [] List.isEmpty) .nil

/-- Reads a node in a document of at most the given height. -/
def NodeDefinition.readWithin : Nat → Reader NodeDefinition
  | 0, _, _ => .error (.fault .tooDeep)
  | height + 1, origin, tree => do
    let children : Codec (List NodeDefinition) := ⟨Reader.list (readWithin height), fun _ => .null⟩
    let (id, type, name, attributes, declarations, nodes, connections, ()) ←
      (nodeRecord children).read "NodeDefinition" origin tree
    pure ⟨id, type, name, attributes, declarations, nodes, connections⟩

/-- Reads a node. -/
def NodeDefinition.read : Reader NodeDefinition := fun origin tree =>
  NodeDefinition.readWithin (tree.height + 1) origin tree

mutual

/-- A node as JSON. -/
def NodeDefinition.write : NodeDefinition → Value
  | ⟨id, type, name, attributes, declarations, none, connections⟩ =>
    .object ((nodeRecord Codec.any).write (id, type, name, attributes, declarations, none, connections, ()))
  | ⟨id, type, name, attributes, declarations, some nodes, connections⟩ =>
    .object ((nodeRecord Codec.any).write
      (id, type, name, attributes, declarations, some (.array (writeAll nodes)), connections, ()))

/-- Nodes as JSON. -/
def NodeDefinition.writeAll : List NodeDefinition → List Value
  | [] => []
  | node :: nodes => node.write :: writeAll nodes

end

/-- Nodes as JSON and back. -/
def NodeDefinition.codec : Codec NodeDefinition := ⟨NodeDefinition.read, NodeDefinition.write⟩

/-! ## Processes -/

/-- The fields of a definition. -/
def processRecord :=
  Record.cons (.required "id" .string) <|
  .cons (.optional "name" .string) <|
  .cons (.optional "version" .string) <|
  .cons (.withDefault "variables" (.map Variable.codec) .empty SortedMap.isEmpty) <|
  .cons (.withDefault "nodes" (.list NodeDefinition.codec) [] (fun _ => false)) <|
  .cons (.withDefault "connections" (.list Connection.codec) [] List.isEmpty) .nil

namespace ProcessDefinition

/-- Definitions as JSON. -/
def codec : Codec ProcessDefinition :=
  processRecord.codec "ProcessDefinition"
    (fun (id, name, version, declarations, nodes, connections, ()) =>
      ⟨id, name, version, declarations, nodes, connections⟩)
    (fun d => (d.id, d.name, d.version, d.declarations, d.nodes, d.connections, ()))

/-- Reads a definition from a text. -/
def ofText (text : String) : Except ReadError ProcessDefinition := codec.read.ofText text

/-- Reads a definition from a value. -/
def ofValue (value : Value) : Except ReadError ProcessDefinition := codec.read.ofValue value

/-- A definition as JSON. -/
def write (definition : ProcessDefinition) : Value := codec.write definition

end ProcessDefinition

/-- The wording of an error in reading a definition. -/
def definitionMessage (error : ReadError) : String := "Failed to parse process definition: " ++ error.message

end ProcessCompiler
