import ProcessCompiler.Expression
import ProcessCompiler.Text.Alphabetic
import ProcessCompiler.Text.Blank

/-!
# The variables that an expression reads

An expression reads the names in it that are no keyword, do not come after a point and are not called. The scan goes
over the characters once and knows what it is in: a string literal, a number, a name, or none of these.
-/

namespace ProcessCompiler.Expression

open Text

/-- Words that never name a variable. -/
def keywords : List String :=
  ["true", "false", "null", "and", "or", "not", "in", "empty", "instanceof", "eq", "ne", "lt", "gt", "le", "ge", "div",
    "mod"]

/-- A character that starts a name. -/
def startsName (c : Char) : Bool := isAlphabetic c || c = '_'

/-- A character that continues a name. -/
def continuesName (c : Char) : Bool := isAlphanumeric c || c = '_'

/-- A character that continues a number. -/
def continuesNumber (c : Char) : Bool := c.isAlphanum || c = '.' || c = '_'

/-- A character that opens a string literal. -/
def opensLiteral (c : Char) : Bool := c = '"' || c = '\''

/-- What the scan is in. A name is kept with its last character first. -/
inductive Mode where
  | between
  | literal (quote : Char)
  | escaped (quote : Char)
  | number
  | name (reversed : List Char)

/-- What a character opens that follows a finished piece. -/
def Mode.ofChar (c : Char) : Mode :=
  if opensLiteral c then .literal c
  else if c.isDigit then .number
  else if startsName c then .name [c]
  else .between

/-- Whether a point is the last thing before what follows a character between pieces. -/
def afterPoint (before : Bool) (c : Char) : Bool := if isBlank c then before else c = '.'

/-- The first character that is not blank is an opening round bracket. -/
def isCalled (cs : List Char) : Bool := (cs.dropWhile isBlank).head? == some '('

/-- Adds a name to the names found, unless it is a member, a call, a keyword or there already. -/
def note (found : List String) (member : Bool) (name : String) (rest : List Char) : List String :=
  if member || isCalled rest || keywords.contains name || found.contains name then found else found ++ [name]

/-- Scans characters. `member` says whether a point is the last thing before the piece that the scan is in. -/
def scan : Mode → Bool → List String → List Char → List String
  | .name reversed, member, found, [] => note found member (String.ofList reversed.reverse) []
  | _, _, found, [] => found
  | .literal quote, member, found, c :: cs =>
    if c = '\\' then scan (.escaped quote) member found cs
    else if c = quote then scan .between false found cs
    else scan (.literal quote) member found cs
  | .escaped quote, member, found, _ :: cs => scan (.literal quote) member found cs
  | .between, member, found, c :: cs =>
    match Mode.ofChar c with
    | .between => scan .between (afterPoint member c) found cs
    | mode => scan mode member found cs
  | .number, member, found, c :: cs =>
    if continuesNumber c then scan .number member found cs
    else
      match Mode.ofChar c with
      | .between => scan .between (afterPoint false c) found cs
      | mode => scan mode false found cs
  | .name reversed, member, found, c :: cs =>
    if continuesName c then scan (.name (c :: reversed)) member found cs
    else
      let found := note found member (String.ofList reversed.reverse) (c :: cs)
      match Mode.ofChar c with
      | .between => scan .between (afterPoint false c) found cs
      | mode => scan mode false found cs

/-- The variables that an expression reads, in the order of their first use. -/
def references (text : String) : List String := scan .between false [] text.toList

end ProcessCompiler.Expression
