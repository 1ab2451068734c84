/-!
# Identifiers of generated code

An identifier has ASCII letters, digits and underscores, and starts with no digit. Any text is turned into one, and
different texts may become the same.
-/

namespace ProcessCompiler.Identifier

/-- A character that may stand inside an identifier. -/
def isPart (c : Char) : Bool := c.isAlphanum || c = '_'

/-- A character that may start an identifier. -/
def isStart (c : Char) : Bool := c.isAlpha || c = '_'

/-- Whether a text is an identifier. -/
def isIdentifier (text : String) : Bool :=
  match text.toList with
  | [] => false
  | c :: rest => isStart c && rest.all isPart

/-- The character itself if it may stand in an identifier, else an underscore. -/
def sanitizeChar (c : Char) : Char := if isPart c then c else '_'

/-- The identifier of characters. -/
def sanitizeChars : List Char → List Char
  | [] => "_empty".toList
  | c :: rest => if c.isDigit then '_' :: c :: rest.map sanitizeChar else sanitizeChar c :: rest.map sanitizeChar

/-- The identifier of a text: what cannot stand in one becomes an underscore, a digit in front gets one before it. -/
def sanitize (text : String) : String := String.ofList (sanitizeChars text.toList)

end ProcessCompiler.Identifier
