import ProcessCompiler.Json.Value
import ProcessCompiler.Json.Fault

/-!
# A JSON document before it is read

A tree is what a text spells, with every fault at its place: fields in their order, repeated keys kept, and a number or
string that has no value left as a defect. So reading a tree front to back meets faults of the text and mismatches of
type in the order of the text, and a part that nobody wants can be passed over (`Tree.skip`).
-/

namespace ProcessCompiler.Json

/-- How a list of items or fields ends: by its bracket, or where the text cannot go on. -/
inductive Ending where
  | closed
  | stopped (stop : Stop)

/-- The end of a list, for a reader of values. -/
def Ending.read : Ending → Except Fault Unit
  | .closed => .ok ()
  | .stopped stop => .error stop.reading

/-- The end of a list, for one that passes over it. -/
def Ending.skip : Ending → Except Fault Unit
  | .closed => .ok ()
  | .stopped stop => .error stop.skipping

/-- A document as it is spelt. `keyless` is an object that opens and has no string where its first key should stand, and
`absent` the place of a value where none begins. -/
inductive Tree where
  | null
  | bool (value : Bool)
  | brokenWord (fault : Fault)
  | number (value : Except Defect Number)
  | string (value : Except Defect String)
  | array (items : List Tree) (ending : Ending)
  | object (fields : List (Except Fault String × Tree)) (ending : Ending)
  | keyless (stop : Stop)
  | absent (fault : Fault)

instance : Inhabited Tree := ⟨.null⟩

namespace Tree

mutual

/-- The tree of a value. -/
def ofValue : Value → Tree
  | .null => .null
  | .bool value => .bool value
  | .number value => .number (.ok value)
  | .string value => .string (.ok value)
  | .array items => .array (ofItems items) .closed
  | .object fields => .object (ofFields fields) .closed

/-- The trees of values. -/
def ofItems : List Value → List Tree
  | [] => []
  | item :: items => ofValue item :: ofItems items

/-- The fields of an object as trees. -/
def ofFields : List (String × Value) → List (Except Fault String × Tree)
  | [] => []
  | (key, value) :: fields => (.ok key, ofValue value) :: ofFields fields

end

/-- A defect, for one that passes over the number or string. -/
def skipDefect {α : Type} : Except Defect α → Except Fault Unit
  | .ok _ => .ok ()
  | .error ⟨_, some fault⟩ => .error fault
  | .error ⟨_, none⟩ => .ok ()

mutual

/-- Passes over a document: only what stops the text counts. -/
def skip : Tree → Except Fault Unit
  | .null | .bool _ => .ok ()
  | .brokenWord fault | .absent fault => .error fault
  | .number value => skipDefect value
  | .string value => skipDefect value
  | .array items ending => do skipItems items; ending.skip
  | .object fields ending => do skipFields fields; ending.skip
  | .keyless stop => .error stop.skipping

/-- Passes over items. -/
def skipItems : List Tree → Except Fault Unit
  | [] => .ok ()
  | item :: items => do item.skip; skipItems items

/-- Passes over fields. -/
def skipFields : List (Except Fault String × Tree) → Except Fault Unit
  | [] => .ok ()
  | (_, value) :: fields => do value.skip; skipFields fields

end

mutual

/-- How deep documents are nested in each other. -/
def height : Tree → Nat
  | .array items _ => heightItems items + 1
  | .object fields _ => heightFields fields + 1
  | _ => 0

/-- The greatest height among items. -/
def heightItems : List Tree → Nat
  | [] => 0
  | item :: items => max item.height (heightItems items)

/-- The greatest height among fields. -/
def heightFields : List (Except Fault String × Tree) → Nat
  | [] => 0
  | (_, value) :: fields => max value.height (heightFields fields)

end

end Tree

end ProcessCompiler.Json
