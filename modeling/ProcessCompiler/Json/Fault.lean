/-!
# What is wrong with a text that should be JSON

A text that breaks off or goes astray stops both a reader that wants its values and one that only passes over them, but
not always with the same fault.
-/

namespace ProcessCompiler.Json

/-- A fault in the text of a JSON document. -/
inductive Fault where
  | endInValue
  | endInList
  | endInObject
  | endInString
  | expectedValue
  | expectedWord
  | invalidNumber
  | numberOutOfRange
  | expectedListEnd
  | expectedObjectEnd
  | expectedColon
  | keyNotString
  | trailingComma
  | trailingCharacters
  | invalidEscape
  | brokenSurrogatePair
  | loneSurrogate
  | controlCharacter
  | tooDeep
  deriving DecidableEq

/-- The wording of a fault. -/
def Fault.message : Fault → String
  | .endInValue => "EOF while parsing a value"
  | .endInList => "EOF while parsing a list"
  | .endInObject => "EOF while parsing an object"
  | .endInString => "EOF while parsing a string"
  | .expectedValue => "expected value"
  | .expectedWord => "expected ident"
  | .invalidNumber => "invalid number"
  | .numberOutOfRange => "number out of range"
  | .expectedListEnd => "expected `,` or `]`"
  | .expectedObjectEnd => "expected `,` or `\x7d`"
  | .expectedColon => "expected `:`"
  | .keyNotString => "key must be a string"
  | .trailingComma => "trailing comma"
  | .trailingCharacters => "trailing characters"
  | .invalidEscape => "invalid escape"
  | .brokenSurrogatePair => "unexpected end of hex escape"
  | .loneSurrogate => "lone leading surrogate in hex escape"
  | .controlCharacter => "control character (\\u0000-\\u001F) found while parsing a string"
  | .tooDeep => "recursion limit exceeded"

/-- A place where the text cannot go on: the fault for a reader of values, and for one that passes over them. -/
structure Stop where
  reading : Fault
  skipping : Fault

/-- Both kinds of reader meet the same fault. -/
def Stop.both (fault : Fault) : Stop := ⟨fault, fault⟩

/-- A number or string that cannot be read; one that only has no value may still be passed over. -/
structure Defect where
  reading : Fault
  skipping : Option Fault

end ProcessCompiler.Json
