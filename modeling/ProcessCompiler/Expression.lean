/-!
# Embedded expressions

An attribute marks an expression by a hash and an opening brace in front and a closing brace behind. Only what stands
in front decides; what stands behind is dropped unseen.
-/

namespace ProcessCompiler.Expression

/-- What opens an embedded expression. -/
def opening : List Char := ['#', '\x7b']

/-- What closes an embedded expression. -/
def closing : Char := '\x7d'

/-- What follows the opening of an embedded expression. -/
def inner? (text : String) : Option (List Char) :=
  match text.toList with
  | '#' :: '\x7b' :: rest => some rest
  | _ => none

/-- Whether a text opens as an embedded expression. -/
def isEmbedded (text : String) : Bool := (inner? text).isSome

/-- Whether a text opens as an embedded expression and does not close. -/
def isUnclosed (text : String) : Bool :=
  match inner? text with
  | some rest => rest.getLast? != some closing
  | none => false

/-- The expression inside its delimiters: of an embedded one the last character goes, whatever it is. -/
def strip (text : String) : String :=
  match inner? text with
  | some rest => String.ofList rest.dropLast
  | none => text

end ProcessCompiler.Expression
