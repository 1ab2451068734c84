import ProcessCompiler.BuiltinType
import ProcessCompiler.Schema

/-!
# The published schemas

* `publishedSchema`: the schema of definitions, with what is known about the built-in node types.
* `BuiltinType.entry`: what is known about one type, its attributes' schema included.
-/

namespace ProcessCompiler

open Json

/-- The version of the definition format. -/
def formatVersion : String := "1.2.0"

/-! ## Definitions -/

/-- The schema of a connection. -/
def connectionSchema : Schema :=
  .record "A control-flow edge between two sibling nodes" ["from", "to"]
    [("from", .text "Source node ID"), ("to", .text "Target node ID"),
      ("label", .optionalText "Optional connection label (e.g. a split branch name)")]

/-- The schema of a variable type. -/
def variableTypeSchema : Schema :=
  .titled "VariableType" <| .described "Data types for process variables."
    [.variants [("string", "String value"), ("integer", "Integer value"),
      ("number", "Numeric value (floating point)"), ("boolean", "Boolean value"), ("array", "Array of values"),
      ("object", "JSON object")]]

/-- The schema of a variable. -/
def variableSchema : Schema :=
  .titled "Variable" <|
    .record ("A typed variable declaration.\n\nVariables live in a scope: process-level variables in the root " ++
      "scope, composite node variables in the composite's own scope.") ["type"]
      [("type", .defined "Variable type" "VariableType"),
        ("value", .described "Initial value (must match the declared type)" []),
        ("description", .optionalText "Human-readable description")]

/-- The schema of a node. -/
def nodeSchema : Schema :=
  .record ("A single node of a process graph.\n\nA node with a `nodes` array is a composite node: it owns an " ++
    "embedded sub-graph and a variable scope nested in the enclosing one.") ["id", "type"]
    [("id", .text "Node identifier, unique among its siblings"),
      ("type", .text "Node type tag (e.g. \"task\", \"split\", \"sub\"). Selects the generator."),
      ("name", .optionalText "Human-readable node name"),
      ("attributes", .mapOf "Type-specific attributes" .anything false),
      ("variables", .mapOf "Variables declared in this composite node's own scope" (.reference "Variable") true),
      ("nodes", .listOf "Child nodes of a composite node" "NodeDefinition" true),
      ("connections",
        .listOf "Connections between the child nodes of a composite node" "ConnectionDefinition" false)]

/-- The schema of a whole definition. -/
def processSchema : Schema :=
  .titled "ProcessDefinition" <|
    .record "Complete process definition" ["id"]
      [("id", .text "Process identifier, used as the runtime process id"),
        ("name", .optionalText "Human-readable process name"),
        ("version", .optionalText "Process version string"),
        ("variables",
          .mapOf "Process-level (global) variables. Keys are variable names." (.reference "Variable") false),
        ("nodes", .keywords [.listOf "Top-level nodes, in emission order" "NodeDefinition" false,
          .note "default" (.array [])]),
        ("connections", .listOf "Control-flow connections between top-level nodes" "ConnectionDefinition" false)]

/-- The schema of a split kind. -/
def splitKindSchema : Schema :=
  .described "Gateway semantics of a `split` node"
    [.variants [("xor", "Exactly one outgoing branch (first matching constraint)"), ("and", "All outgoing branches"),
      ("or", "Every branch whose constraint holds")]]

/-- The schema of a join kind. -/
def joinKindSchema : Schema :=
  .described "Synchronization semantics of a `join` node"
    [.variants [("and", "Wait for all incoming branches"), ("xor", "Continue on the first incoming branch"),
      ("discriminator", "Continue on the first branch, discard the rest")]]

/-- The schema of a constraint. -/
def constraintSchema : Schema :=
  .record "A branch constraint of a `split` node" ["expr", "to"]
    [("to", .text "Target sibling node ID"), ("expr", .text "Condition expression"),
      ("priority", .described "Evaluation priority (lower first)"
        [.type [.integer], .note "format" (.string "uint32"), .minimum ⟨0⟩, .note "default" (.ofNat 0)])]

/-- The schema of definitions. -/
def definitionSchema : SchemaDocument where
  root := processSchema
  definitions := [("ConnectionDefinition", connectionSchema), ("JoinKind", .titled "JoinKind" joinKindSchema),
    ("NodeDefinition", nodeSchema), ("SplitKind", .titled "SplitKind" splitKindSchema), ("Variable", variableSchema),
    ("VariableType", variableTypeSchema)]

/-! ## Attributes -/

namespace BuiltinType

/-- The schema of the attributes of a type. -/
def schema : BuiltinType → SchemaDocument
  | .start =>
    ⟨.titled "StartAttributes" <| .record "Attributes of a `start` node" []
      [("signal", .optionalText "Signal that triggers the process (none = started explicitly)")], []⟩
  | .finish =>
    ⟨.titled "EndAttributes" <| .record "Attributes of an `end` node" []
      [("terminate", .boolean "Whether reaching this node terminates the whole process instance" true)], []⟩
  | .task =>
    ⟨.titled "TaskAttributes" <| .record "Attributes of a `task` (script action) node" ["expr"]
      [("expr", .text "Expression evaluated when the task runs, with or without `#\x7b\x7d`"),
        ("output", .optionalText "Variable receiving the expression result")], []⟩
  | .workItem =>
    ⟨.titled "WorkItemAttributes" <| .record "Attributes of a `work-item` node" ["workName"]
      [("workName", .text "Name of the work item handler executing this node"),
        ("parameters",
          .mapOf "Handler parameters. `#\x7b...\x7d` values are expressions, others literals."
            (.type [.string]) false)],
      []⟩
  | .split =>
    ⟨.titled "SplitAttributes" <| .record "Attributes of a `split` node" ["kind"]
      [("kind", .defined "Gateway semantics" "SplitKind"),
        ("constraints", .listOf "Branch constraints (ignored for `and`)" "SplitConstraint" false)],
      [("SplitConstraint", constraintSchema), ("SplitKind", splitKindSchema)]⟩
  | .join =>
    ⟨.titled "JoinAttributes" <| .record "Attributes of a `join` node" ["kind"]
      [("kind", .defined "Synchronization semantics" "JoinKind")], [("JoinKind", joinKindSchema)]⟩
  | .timer =>
    ⟨.titled "TimerAttributes" <| .record "Attributes of a `timer` node" ["delay"]
      [("delay", .text "ISO-8601 duration literal (e.g. \"PT5S\") or a `#\x7b...\x7d` expression")], []⟩
  | .milestone =>
    ⟨.titled "MilestoneAttributes" <| .record "Attributes of a `milestone` node" ["condition"]
      [("condition", .text "Completion condition expression")], []⟩
  | .subProcess =>
    ⟨.titled "SubProcessAttributes" <| .record "Attributes of a `sub` (embedded sub-process) composite node" []
      [("autoComplete", .boolean "Complete the sub-process when no child node is active" true)], []⟩
  | .forEach =>
    ⟨.titled "ForEachAttributes" <| .record "Attributes of a `for-each` composite node" ["collection", "item"]
      [("collection", .text "Collection expression, resolved in the enclosing scope"),
        ("item", .text "Iteration variable, declared in the node's own scope"),
        ("output", .optionalText "Variable collecting the per-iteration results")], []⟩
  | .eventSubProcess =>
    ⟨.titled "EventSubProcessAttributes" <| .record "Attributes of an `event-sub` composite node" ["signal"]
      [("signal", .text "Signal that starts the event sub-process")], []⟩

/-- What is known about a type in brief. -/
def summary (type : BuiltinType) : List (String × Value) :=
  [("type", .string type.tag), ("description", .string type.description), ("category", .string type.category),
    ("composite", .bool type.isComposite)]

/-- What is known about a type, with its name for people and the schema of its attributes. -/
def entry (type : BuiltinType) : Value :=
  .object (type.summary ++ [("displayName", .string type.displayName), ("schema", .object type.schema.write)])

/-- All types in ascending order of their tags. -/
def byTag : List BuiltinType := all.mergeSort fun a b => a.tag ≤ b.tag

end BuiltinType

/-- The schema of definitions, with the node types and the version of the format. -/
def publishedSchema : Value :=
  .object (definitionSchema.write ++
    [("x-node-types", .array (BuiltinType.byTag.map BuiltinType.entry)), ("x-dsl-version", .string formatVersion)])

end ProcessCompiler
