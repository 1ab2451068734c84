import ProcessCompiler.Json.Value

/-!
# JSON text of a value

The text is compact: no blanks, fields in their order. A string escapes the quote, the backslash and the controls below
U+0020, each by its short form if it has one; all other characters stand as they are.
-/

namespace ProcessCompiler.Json

/-- A digit of base sixteen, in lower case. -/
def hexDigit (n : Nat) : Char := Nat.digitChar (n % 16)

/-- A character inside a string of JSON text. -/
def escapeChar (c : Char) : List Char :=
  if c = '"' then ['\\', '"']
  else if c = '\\' then ['\\', '\\']
  else if c = '\x08' then ['\\', 'b']
  else if c = '\x0c' then ['\\', 'f']
  else if c = '\n' then ['\\', 'n']
  else if c = '\r' then ['\\', 'r']
  else if c = '\t' then ['\\', 't']
  else if c.toNat < 0x20 then ['\\', 'u', '0', '0', hexDigit (c.toNat / 16), hexDigit c.toNat]
  else [c]

/-- A string as JSON text, with its quotes. -/
def printString (text : String) : List Char := '"' :: text.toList.flatMap escapeChar ++ ['"']

/-- A whole number in decimal digits. -/
def printInt : Int → List Char
  | .ofNat n => Nat.toDigits 10 n
  | .negSucc n => '-' :: Nat.toDigits 10 (n + 1)

/-- A number as JSON text. -/
def Number.print : Number → List Char
  | .integer value _ => printInt value
  | .double value => value.text.toList

mutual

/-- A value as JSON text. -/
def Value.print : Value → List Char
  | .null => ['n', 'u', 'l', 'l']
  | .bool true => ['t', 'r', 'u', 'e']
  | .bool false => ['f', 'a', 'l', 's', 'e']
  | .number value => value.print
  | .string value => printString value
  | .array [] => ['[', ']']
  | .array (item :: items) => '[' :: item.print ++ Value.printItems items
  | .object [] => ['\x7b', '\x7d']
  | .object ((key, value) :: fields) =>
    '\x7b' :: printString key ++ ':' :: value.print ++ Value.printFields fields

/-- The items that follow another one, and the bracket that closes them. -/
def Value.printItems : List Value → List Char
  | [] => [']']
  | item :: items => ',' :: item.print ++ Value.printItems items

/-- The fields that follow another one, and the brace that closes them. -/
def Value.printFields : List (String × Value) → List Char
  | [] => ['\x7d']
  | (key, value) :: fields => ',' :: printString key ++ ':' :: value.print ++ Value.printFields fields

end

/-- The compact JSON text of a value. -/
def Value.compact (value : Value) : String := String.ofList value.print

end ProcessCompiler.Json
