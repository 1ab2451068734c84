import ProcessCompiler.Json.Value

/-!
# Schemas of JSON values

A schema is a conjunction of keywords. Those that only inform (title, description, default, format) are notes; the
others restrict what is valid.
-/

namespace ProcessCompiler

open Json

/-- A type name of schemas. -/
inductive JsonType where
  | null
  | boolean
  | integer
  | string
  | array
  | object
  deriving DecidableEq

/-- The type name in a schema. -/
def JsonType.name : JsonType → String
  | .null => "null"
  | .boolean => "boolean"
  | .integer => "integer"
  | .string => "string"
  | .array => "array"
  | .object => "object"

/-- A schema. -/
inductive Schema where
  | anything
  | keywords (parts : List Schema)
  | note (keyword : String) (value : Value)
  | type (names : List JsonType)
  | enumeration (names : List String)
  | minimum (bound : Double)
  | required (names : List String)
  | properties (members : List (String × Schema))
  | additional (values : Schema)
  | items (item : Schema)
  | allOf (schemas : List Schema)
  | oneOf (schemas : List Schema)
  | reference (definition : String)

namespace Schema

/-- A type name alone, or several as an array. -/
def typeValue : List JsonType → Value
  | [t] => .string t.name
  | types => .strings (types.map JsonType.name)

/-- A schema with these keywords as JSON. -/
def enclose (schema : Schema) (keywords : List (String × Value)) : Value :=
  match schema with
  | .anything => .bool true
  | _ => .object keywords

mutual

/-- The keywords of a schema as fields. -/
def writeKeywords : Schema → List (String × Value)
  | .anything => []
  | .keywords parts => writeParts parts
  | .note keyword value => [(keyword, value)]
  | .type names => [("type", typeValue names)]
  | .enumeration names => [("enum", .strings names)]
  | .minimum bound => [("minimum", .number (.double bound))]
  | .required names => [("required", .strings names)]
  | .properties members => [("properties", .object (writeMembers members))]
  | .additional values => [("additionalProperties", values.enclose values.writeKeywords)]
  | .items item => [("items", item.enclose item.writeKeywords)]
  | .allOf schemas => [("allOf", .array (writeAll schemas))]
  | .oneOf schemas => [("oneOf", .array (writeAll schemas))]
  | .reference definition => [("$ref", .string ("#/definitions/" ++ definition))]

/-- The keywords of all parts. -/
def writeParts : List Schema → List (String × Value)
  | [] => []
  | part :: parts => part.writeKeywords ++ writeParts parts

/-- Named schemas as fields. -/
def writeMembers : List (String × Schema) → List (String × Value)
  | [] => []
  | (name, schema) :: members => (name, schema.enclose schema.writeKeywords) :: writeMembers members

/-- Schemas as JSON. -/
def writeAll : List Schema → List Value
  | [] => []
  | schema :: schemas => schema.enclose schema.writeKeywords :: writeAll schemas

end

/-- A schema as JSON. -/
def write (schema : Schema) : Value := schema.enclose schema.writeKeywords

/-! ## Shapes in use -/

/-- A description for people. -/
def described (text : String) (parts : List Schema) : Schema :=
  .keywords (.note "description" (.string text) :: parts)

/-- A string. -/
def text (description : String) : Schema := described description [.type [.string]]

/-- A string or null. -/
def optionalText (description : String) : Schema := described description [.type [.string, .null]]

/-- A truth value with a default. -/
def boolean (description : String) (default : Bool) : Schema :=
  described description [.type [.boolean], .note "default" (.bool default)]

/-- One of several names, each with its meaning. -/
def variants (names : List (String × String)) : Schema :=
  .oneOf (names.map fun (name, meaning) => described meaning [.type [.string], .enumeration [name]])

/-- A definition, with a description of its use. -/
def defined (description definition : String) : Schema := described description [.allOf [.reference definition]]

/-- An array of a definition, or null if `optional`. -/
def listOf (description definition : String) (optional : Bool) : Schema :=
  described description
    [.type (if optional then [.array, .null] else [.array]), .items (.reference definition)]

/-- An object whose fields all have a schema, or null if `optional`. -/
def mapOf (description : String) (values : Schema) (optional : Bool) : Schema :=
  described description [.type (if optional then [.object, .null] else [.object]), .additional values]

/-- An object with known fields, some of them required. -/
def record (description : String) (required : List String) (members : List (String × Schema)) : Schema :=
  described description
    ([.type [.object], .properties members] ++ (if required = [] then [] else [.required required]))

/-- A schema with a title. -/
def titled (title : String) (schema : Schema) : Schema := .keywords [.note "title" (.string title), schema]

end Schema

/-- A schema document: a schema with the definitions that it refers to. -/
structure SchemaDocument where
  root : Schema
  definitions : List (String × Schema)

/-- A schema document as fields. -/
def SchemaDocument.write (document : SchemaDocument) : List (String × Value) :=
  ("$schema", .string "http://json-schema.org/draft-07/schema#") :: document.root.writeKeywords ++
    (if document.definitions.isEmpty then [] else [("definitions", .object (Schema.writeMembers document.definitions))])

end ProcessCompiler
