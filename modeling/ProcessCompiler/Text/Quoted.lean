import ProcessCompiler.Text.Escaped

/-!
# Quoted text

Between its quotes a text shows the quote, the backslash and the common controls by a backslash and one character, every
other invisible character by its code point, and all else as it is. A literal of generated code and a text quoted in a
message differ in one place: in a literal a NUL before an octal digit is written `\x00`, so that it cannot be taken for
an octal escape.
-/

namespace ProcessCompiler.Text

/-- A code point in lower case hexadecimal digits, between braces. -/
def codePoint (c : Char) : List Char := ['\\', 'u', '\x7b'] ++ Nat.toDigits 16 c.toNat ++ ['\x7d']

/-- A character between quotes. -/
def shown (c : Char) : List Char :=
  if c = '\x00' then ['\\', '0']
  else if c = '\t' then ['\\', 't']
  else if c = '\r' then ['\\', 'r']
  else if c = '\n' then ['\\', 'n']
  else if c = '"' then ['\\', '"']
  else if c = '\\' then ['\\', '\\']
  else if isInvisible c then codePoint c
  else [c]

/-- An octal digit. -/
def isOctal (c : Char) : Bool := '0' ≤ c && c ≤ '7'

/-- The characters between the quotes of a literal. -/
def literalChars : List Char → List Char
  | [] => []
  | c :: rest =>
    (if c = '\x00' ∧ (rest.head?.any isOctal) = true then ['\\', 'x', '0', '0'] else shown c) ++ literalChars rest

/-- A text quoted in a message. -/
def quoted (text : String) : String := String.ofList ('"' :: text.toList.flatMap shown ++ ['"'])

/-- A string literal of generated code. -/
def literal (text : String) : String := String.ofList ('"' :: literalChars text.toList ++ ['"'])

end ProcessCompiler.Text
