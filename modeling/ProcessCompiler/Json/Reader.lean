import ProcessCompiler.Json.Printer
import ProcessCompiler.Json.Tree
import ProcessCompiler.SortedMap
import ProcessCompiler.Text.Quoted

/-!
# Reading typed data from documents

A reader takes what it wants from a tree, front to back, and reports the first thing that does not fit. The same readers
serve a text and a value that is already there; the two differ in how deep a document may nest, in how an enumeration is
given, and in what is said of surplus items.
-/

namespace ProcessCompiler.Json

/-- Where a document comes from: a text, in which this many more levels may open, or a value. -/
inductive Origin where
  | text (room : Nat)
  | value

/-- The levels of arrays and objects that may open in a text. -/
def Origin.wholeText : Origin := .text 127

/-- What stands where something else is wanted. -/
inductive Found where
  | null
  | bool (value : Bool)
  | integer (value : Int)
  | double (value : Double)
  | string (value : String)
  | sequence
  | map
  deriving DecidableEq

/-- The words for what was found. -/
def Found.message : Found → String
  | .null => "null"
  | .bool true => "boolean `true`"
  | .bool false => "boolean `false`"
  | .integer value => "integer `" ++ String.ofList (printInt value) ++ "`"
  | .double value => "floating point `" ++ value.text ++ "`"
  | .string value => "string " ++ Text.quoted value
  | .sequence => "sequence"
  | .map => "map"

/-- Why data cannot be read from a document. -/
inductive ReadError where
  | fault (fault : Fault)
  | wrongType (found : Found) (expected : String)
  | wrongValue (found : Found) (expected : String)
  | wrongLength (length : Nat) (expected : String)
  | missingField (name : String)
  | duplicateField (name : String)
  | unknownVariant (name : String) (known : List String)
  deriving DecidableEq

/-- The wording of a reading error. -/
def ReadError.message : ReadError → String
  | .fault f => f.message
  | .wrongType found expected => "invalid type: " ++ found.message ++ ", expected " ++ expected
  | .wrongValue found expected => "invalid value: " ++ found.message ++ ", expected " ++ expected
  | .wrongLength length expected => "invalid length " ++ toString length ++ ", expected " ++ expected
  | .missingField name => "missing field `" ++ name ++ "`"
  | .duplicateField name => "duplicate field `" ++ name ++ "`"
  | .unknownVariant name known =>
    "unknown variant `" ++ name ++ "`, expected one of " ++ ", ".intercalate (known.map fun k => "`" ++ k ++ "`")

/-- A way to read data of a type from a document. -/
abbrev Reader (α : Type) := Origin → Tree → Except ReadError α

/-- A fault of the text, as a reading error. -/
def faulty {α : Type} : Except Fault α → Except ReadError α
  | .ok a => .ok a
  | .error fault => .error (.fault fault)

/-- One level deeper. -/
def Origin.enter : Origin → Except ReadError Origin
  | .text 0 => .error (.fault .tooDeep)
  | .text (room + 1) => .ok (.text room)
  | .value => .ok .value

/-- What a document that is not wanted holds, or the fault that hides it. -/
def Tree.found : Tree → Except Fault Found
  | .null => .ok .null
  | .bool value => .ok (.bool value)
  | .number (.ok (.integer value _)) => .ok (.integer value)
  | .number (.ok (.double value)) => .ok (.double value)
  | .number (.error defect) => .error defect.reading
  | .string (.ok value) => .ok (.string value)
  | .string (.error defect) => .error defect.reading
  | .array _ _ => .ok .sequence
  | .object _ _ | .keyless _ => .ok .map
  | .brokenWord fault | .absent fault => .error fault

/-- The error for a document of the wrong type. -/
def Tree.mismatch {α : Type} (tree : Tree) (expected : String) : Except ReadError α := do
  let found ← faulty tree.found
  .error (.wrongType found expected)

namespace Reader

variable {α : Type}

/-- Reads a string. -/
def string : Reader String := fun _ tree =>
  match tree with
  | .string (.ok value) => .ok value
  | _ => tree.mismatch "a string"

/-- Reads a truth value. -/
def bool : Reader Bool := fun _ tree =>
  match tree with
  | .bool value => .ok value
  | _ => tree.mismatch "a boolean"

/-- Reads a whole number of 32 bits without sign. -/
def word32 : Reader UInt32 := fun _ tree =>
  match tree with
  | .number (.ok (.integer value _)) =>
    if 0 ≤ value ∧ value < 0x100000000 then .ok value.toNat.toUInt32 else .error (.wrongValue (.integer value) "u32")
  | _ => tree.mismatch "u32"

/-- Reads data or null. -/
def optional (reader : Reader α) : Reader (Option α) := fun origin tree =>
  match tree with
  | .null => .ok none
  | _ => some <$> reader origin tree

/-- Reads each item of an array. -/
def list (reader : Reader α) : Reader (List α) := fun origin tree =>
  match tree with
  | .array items ending => do
    let inside ← origin.enter
    let values ← items.mapM (reader inside)
    faulty ending.read
    pure values
  | _ => tree.mismatch "a sequence"

/-- Reads the fields of an object into a map. -/
def mapFields (reader : Reader α) (inside : Origin) :
    SortedMap α → List (Except Fault String × Tree) → Except ReadError (SortedMap α)
  | map, [] => .ok map
  | map, (key, tree) :: fields => do
    let key ← faulty key
    let value ← reader inside tree
    mapFields reader inside (map.insert key value) fields

/-- Reads an object as a map; of two fields with one key the later counts. -/
def map (reader : Reader α) : Reader (SortedMap α) := fun origin tree =>
  match tree with
  | .object fields ending => do
    let inside ← origin.enter
    let values ← mapFields reader inside .empty fields
    faulty ending.read
    pure values
  | .keyless stop => do
    let _ ← origin.enter
    .error (.fault stop.reading)
  | _ => tree.mismatch "a map"

/-! ## Any value -/

mutual

/-- Reads any value, with the fields of its objects in ascending order. -/
def any : Origin → Tree → Except ReadError Value
  | _, .null => .ok .null
  | _, .bool value => .ok (.bool value)
  | _, .number (.ok value) => .ok (.number value)
  | _, .number (.error defect) => .error (.fault defect.reading)
  | _, .string (.ok value) => .ok (.string value)
  | _, .string (.error defect) => .error (.fault defect.reading)
  | origin, .array items ending => do
    let inside ← origin.enter
    let values ← anyItems inside items
    faulty ending.read
    pure (.array values)
  | origin, .object fields ending => do
    let inside ← origin.enter
    let values ← anyFields inside .empty fields
    faulty ending.read
    pure (.object values.entries)
  | origin, .keyless stop => do
    let _ ← origin.enter
    .error (.fault stop.reading)
  | _, .brokenWord fault | _, .absent fault => .error (.fault fault)

/-- Reads each item as any value. -/
def anyItems : Origin → List Tree → Except ReadError (List Value)
  | _, [] => .ok []
  | origin, item :: items => do
    let value ← any origin item
    let values ← anyItems origin items
    pure (value :: values)

/-- Reads each field as any value, into a map. -/
def anyFields : Origin → SortedMap Value → List (Except Fault String × Tree) → Except ReadError (SortedMap Value)
  | _, map, [] => .ok map
  | origin, map, (key, tree) :: fields => do
    let key ← faulty key
    let value ← any origin tree
    anyFields origin (map.insert key value) fields

end

/-! ## Enumerations -/

/-- The meaning of a name among the known ones. -/
def variant (known : List (String × α)) (name : String) : Except ReadError α :=
  match SortedMap.lookupEntry name known with
  | some value => .ok value
  | none => .error (.unknownVariant name (known.map (·.1)))

/-- Reads the payload of a name that has none. -/
def unit : Reader Unit := fun _ tree =>
  match tree with
  | .null => .ok ()
  | _ => tree.mismatch "unit"

/-- Reads one of the known names from a text: as a string, or as an object with this key and null. -/
def enumerationText (known : List (String × α)) : Reader α := fun origin tree =>
  match tree with
  | .string (.ok name) => variant known name
  | .string (.error defect) => .error (.fault defect.reading)
  | .object fields ending => do
    let inside ← origin.enter
    match fields, ending with
    | [], .closed => .error (.fault .expectedValue)
    | [], .stopped stop => .error (.fault stop.reading)
    | (key, payload) :: more, _ => do
      let key ← faulty key
      let value ← variant known key
      unit inside payload
      match more, ending with
      | [], .closed => pure value
      | [], .stopped ⟨.endInObject, _⟩ => .error (.fault .endInObject)
      | _, _ => .error (.fault .expectedValue)
  | .keyless stop => do
    let _ ← origin.enter
    .error (.fault (if stop.reading = .endInObject then .endInValue else stop.reading))
  | .absent fault => .error (.fault fault)
  | _ => .error (.fault .expectedValue)

/-- Reads one of the known names from a value: a string, or an object with this one key and null. -/
def enumerationValue (known : List (String × α)) : Reader α := fun origin tree =>
  match tree with
  | .string (.ok name) => variant known name
  | .object [(.ok name, payload)] _ => do
    let value ← variant known name
    unit origin payload
    pure value
  | .object _ _ => .error (.wrongValue .map "map with a single key")
  | _ => tree.mismatch "string or map"

/-- Reads one of the known names. -/
def enumeration (known : List (String × α)) : Reader α := fun origin tree =>
  match origin with
  | .text _ => enumerationText known origin tree
  | .value => enumerationValue known origin tree

end Reader

end ProcessCompiler.Json
