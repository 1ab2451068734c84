import ProcessCompiler.Json.Double

/-!
# JSON values

A whole number that a signed or unsigned machine word of 64 bits holds is kept exactly; every other number is a double.
The fields of an object stand in the order in which they are written.
-/

namespace ProcessCompiler.Json

/-- A JSON number. -/
inductive Number where
  | integer (value : Int) (bounds : -0x8000000000000000 ≤ value ∧ value < 0x10000000000000000)
  | double (value : Double)
  deriving DecidableEq

/-- A JSON value. -/
inductive Value where
  | null
  | bool (value : Bool)
  | number (value : Number)
  | string (value : String)
  | array (items : List Value)
  | object (fields : List (String × Value))

instance : Inhabited Value := ⟨.null⟩

/-- A whole number as a JSON number, if a machine word of 64 bits holds it. -/
def Number.ofInt? (value : Int) : Option Number :=
  if bounds : -0x8000000000000000 ≤ value ∧ value < 0x10000000000000000 then some (.integer value bounds) else none

namespace Value

/-- A natural number as a JSON value; none is written for one beyond 64 bits. -/
def ofNat (value : Nat) : Value :=
  match Number.ofInt? value with
  | some n => .number n
  | none => .null

/-- A text, or null for none. -/
def ofOption : Option String → Value
  | some text => .string text
  | none => .null

/-- The texts as an array. -/
def strings (texts : List String) : Value := .array (texts.map .string)

/-- The value under a key, if the value is an object that has it. -/
def field? (value : Value) (key : String) : Option Value :=
  match value with
  | .object fields => (fields.find? fun f => f.1 == key).map (·.2)
  | _ => none

end Value

end ProcessCompiler.Json
