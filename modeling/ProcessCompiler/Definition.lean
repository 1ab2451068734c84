import ProcessCompiler.Json.Document

/-!
# Process definitions

A process definition is a tree of typed nodes with variables and connections. A node that has a list of nodes, even an
empty one, is composite: it owns a sub-graph and a scope of variables inside the enclosing one.
-/

namespace ProcessCompiler

open Json

/-- The type of a process variable. -/
inductive VariableType where
  | string
  | integer
  | number
  | boolean
  | array
  | object
  deriving DecidableEq

namespace VariableType

/-- The types by their names in a definition. -/
def byName : List (String × VariableType) :=
  [("string", .string), ("integer", .integer), ("number", .number), ("boolean", .boolean), ("array", .array),
    ("object", .object)]

/-- The name of a type in a definition. -/
def name : VariableType → String
  | .string => "string"
  | .integer => "integer"
  | .number => "number"
  | .boolean => "boolean"
  | .array => "array"
  | .object => "object"

end VariableType

/-- The declaration of a variable. -/
structure Variable where
  type : VariableType
  value : Option Value
  description : Option String

/-- A control flow edge between two nodes of one list, by their ids. -/
structure Connection where
  source : String
  target : String
  label : Option String
  deriving DecidableEq

/-- A node of a definition. -/
structure NodeDefinition where
  id : String
  type : String
  name : Option String
  attributes : SortedMap Value
  declarations : Option (SortedMap Variable)
  nodes : Option (List NodeDefinition)
  connections : List Connection

/-- A complete definition. -/
structure ProcessDefinition where
  id : String
  name : Option String
  version : Option String
  declarations : SortedMap Variable
  nodes : List NodeDefinition
  connections : List Connection

end ProcessCompiler
