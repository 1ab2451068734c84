import ProcessCompiler.Json.Record
import ProcessCompiler.Json.Scan

/-!
# Whole documents

The two ways in: a text, which holds one document and nothing but blanks after it, and a value.
-/

namespace ProcessCompiler.Json

/-- Reads a text. -/
def Reader.ofText {α : Type} (reader : Reader α) (text : String) : Except ReadError α := do
  let (tree, rest) := Tree.ofText text
  let value ← reader .wholeText tree
  if rest.all isSpace then pure value else .error (.fault .trailingCharacters)

/-- Reads from a value. -/
def Reader.ofValue {α : Type} (reader : Reader α) (value : Value) : Except ReadError α :=
  reader .value (.ofValue value)

/-- Reads a text as any value. -/
def Value.ofText (text : String) : Except ReadError Value := Reader.ofText Reader.any text

end ProcessCompiler.Json
