import ProcessCompiler.Json.Printer
import ProcessCompiler.Token

/-!
# Values as generated code

A scalar becomes the constructor of its value. An array or object becomes its JSON text, which the generated program
parses when it runs.
-/

namespace ProcessCompiler

open Json

/-- A number with a sign in front, as code: the sign is a token of its own. -/
def signedLiteral (negative : Bool) (digits : String) : Code :=
  if negative then Code.words ["-", digits] else Code.words [digits]

/-- The name of a member of the type of JSON values, in generated code. -/
def valuePath (member : String) : Code := Code.path ["serde_json", "Value", member]

/-- A number as code; whole numbers that fit are signed words of 64 bits. -/
def Json.Number.code : Number → Code
  | .integer value _ =>
    let kind := if value < 0x8000000000000000 then "i64" else "u64"
    valuePath "Number" ++
      Code.arguments [Code.path ["serde_json", "Number", "from"] ++
        Code.arguments [signedLiteral (value < 0) (String.ofList (Nat.toDigits 10 value.natAbs) ++ kind)]]
  | .double value =>
    Code.path ["serde_json", "Number", "from_f64"] ++
      Code.arguments [signedLiteral value.isNegative (value.plain ++ "f64")] ++
      Code.method "map" [valuePath "Number"] ++
      Code.method "unwrap_or" [valuePath "Null"]

/-- JSON text as code that parses it. -/
def parsedText (text : String) : Code :=
  Code.path ["serde_json", "from_str"] ++ Code.words ["::", "<"] ++ Code.path ["serde_json", "Value"] ++
    Code.words [">"] ++ Code.arguments [Code.string text] ++ Code.method "unwrap_or" [valuePath "Null"]

/-- Code that constructs a value. -/
def Json.Value.code (value : Value) : Code :=
  match value with
  | .null => valuePath "Null"
  | .bool b => valuePath "Bool" ++ Code.arguments [Code.bool b]
  | .number n => n.code
  | .string text => valuePath "String" ++ Code.arguments [Code.string text ++ Code.method "to_string" []]
  | .array _ | .object _ => parsedText value.compact

end ProcessCompiler
