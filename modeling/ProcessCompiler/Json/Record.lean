import ProcessCompiler.Json.Reader

/-!
# Records with named fields

A record type is described once, as the list of its fields in their order, and the description both reads it and writes
it. It is read from an object, in which fields may come in any order and others are passed over, or from an array of its
fields in order; it is written as an object.

* `Record.read`: reads a record from a document.
* `Record.write`: the fields of a record as JSON.
-/

namespace ProcessCompiler.Json

/-- How a type is written as JSON and read back. -/
structure Codec (α : Type) where
  read : Reader α
  write : α → Value

/-- A field: its name, its type's codec, what it holds if an object lacks it or an array ends before it, and whether it
is left out when written. -/
structure Field (α : Type) where
  name : String
  codec : Codec α
  absent : Option α
  cut : Option α
  omitted : α → Bool

namespace Field

variable {α : Type}

/-- A field that must be there. -/
def required (name : String) (codec : Codec α) : Field α := ⟨name, codec, none, none, fun _ => false⟩

/-- A field that is none if it is lacking or null, but that an array must have. -/
def optional (name : String) (codec : Codec α) : Field (Option α) :=
  { name
    codec := ⟨Reader.optional codec.read, fun a => (a.map codec.write).getD .null⟩
    absent := some none
    cut := none
    omitted := Option.isNone }

/-- A field with a value for when it is lacking; that value is left out when `omitted` says so. -/
def withDefault (name : String) (codec : Codec α) (value : α) (omitted : α → Bool) : Field α :=
  ⟨name, codec, some value, some value, omitted⟩

end Field

/-- The fields of a record, in order. `σ` is the type of what was met of them so far, `τ` that of their values, both as
nested pairs. -/
inductive Record : Type → Type → Type 1 where
  | nil : Record Unit Unit
  | cons {α σ τ : Type} (field : Field α) (rest : Record σ τ) : Record (Option α × σ) (α × τ)

namespace Record

/-- No field was met. -/
def blank : {σ τ : Type} → Record σ τ → σ
  | _, _, .nil => ()
  | _, _, .cons _ rest => (none, rest.blank)

/-- How many fields a record has. -/
def size : {σ τ : Type} → Record σ τ → Nat
  | _, _, .nil => 0
  | _, _, .cons _ rest => rest.size + 1

/-- Reads a field into its slot, or passes over one that the record does not have. -/
def step (origin : Origin) (key : String) (tree : Tree) :
    {σ τ : Type} → Record σ τ → σ → Except ReadError σ
  | _, _, .nil, () => do
    faulty tree.skip
    pure ()
  | _, _, .cons field rest, (slot, slots) =>
    if key = field.name then
      match slot with
      | some _ => .error (.duplicateField key)
      | none => do
        let value ← field.codec.read origin tree
        pure (some value, slots)
    else do
      let slots ← rest.step origin key tree slots
      pure (slot, slots)

/-- Reads fields into their slots. -/
def steps {σ τ : Type} (record : Record σ τ) (origin : Origin) :
    σ → List (Except Fault String × Tree) → Except ReadError σ
  | slots, [] => .ok slots
  | slots, (key, tree) :: fields => do
    let key ← faulty key
    let slots ← record.step origin key tree slots
    record.steps origin slots fields

/-- The values of all fields; the first that is lacking and has no value for that case is an error. -/
def finish : {σ τ : Type} → Record σ τ → σ → Except ReadError τ
  | _, _, .nil, () => .ok ()
  | _, _, .cons field rest, (slot, slots) => do
    let value ← match slot.or field.absent with
      | some value => pure value
      | none => .error (.missingField field.name)
    let values ← rest.finish slots
    pure (value, values)

/-- What is wrong with the end of an array after all fields of a record. -/
def endOfArray (origin : Origin) (length : Nat) : List Tree → Ending → Except ReadError Unit
  | [], .closed => .ok ()
  | [], .stopped stop =>
    match stop.reading with
    | .trailingComma => .error (.fault .trailingComma)
    | .endInList => .error (.fault .endInList)
    | _ => .error (.fault .trailingCharacters)
  | _ :: _, _ =>
    match origin with
    | .text _ => .error (.fault .trailingCharacters)
    | .value => .error (.wrongLength length "fewer elements in array")

/-- Reads the fields from items in order; returns the items that are left. -/
def items (origin : Origin) (ending : Ending) (expected : String) :
    {σ τ : Type} → Record σ τ → Nat → List Tree → Except ReadError (τ × List Tree)
  | _, _, .nil, _, trees => .ok ((), trees)
  | _, _, .cons field rest, index, [] => do
    faulty ending.read
    let value ← match field.cut with
      | some value => pure value
      | none => .error (.wrongLength index expected)
    let (values, trees) ← rest.items origin ending expected (index + 1) []
    pure ((value, values), trees)
  | _, _, .cons field rest, index, tree :: trees => do
    let value ← field.codec.read origin tree
    let (values, trees) ← rest.items origin ending expected (index + 1) trees
    pure ((value, values), trees)

/-- Reads a record of the given type name. -/
def read {σ τ : Type} (record : Record σ τ) (name : String) : Reader τ := fun origin tree =>
  match tree with
  | .object fields ending => do
    let inside ← origin.enter
    let slots ← record.steps inside record.blank fields
    faulty ending.read
    record.finish slots
  | .keyless stop => do
    let _ ← origin.enter
    .error (.fault stop.reading)
  | .array trees ending => do
    let inside ← origin.enter
    let expected := "struct " ++ name ++ " with " ++ toString record.size ++ " elements"
    let (values, left) ← record.items inside ending expected 0 trees
    endOfArray origin trees.length left ending
    pure values
  | _ => tree.mismatch ("struct " ++ name)

/-- The fields of a record as JSON, in order. -/
def write : {σ τ : Type} → Record σ τ → τ → List (String × Value)
  | _, _, .nil, () => []
  | _, _, .cons field rest, (value, values) =>
    if field.omitted value then rest.write values
    else (field.name, field.codec.write value) :: rest.write values

/-- A record as a codec of a type with the same fields. -/
def codec {σ τ α : Type} (record : Record σ τ) (name : String) (make : τ → α) (fields : α → τ) : Codec α where
  read := fun origin tree => make <$> record.read name origin tree
  write := fun a => .object (record.write (fields a))

end Record

/-! ## Codecs of plain types -/

namespace Codec

variable {α : Type}

/-- Strings. -/
def string : Codec String := ⟨Reader.string, .string⟩

/-- Truth values. -/
def bool : Codec Bool := ⟨Reader.bool, .bool⟩

/-- Whole numbers of 32 bits without sign. -/
def word32 : Codec UInt32 := ⟨Reader.word32, fun n => .ofNat n.toNat⟩

/-- Any value. -/
def any : Codec Value := ⟨Reader.any, id⟩

/-- Lists, as arrays. -/
def list (codec : Codec α) : Codec (List α) := ⟨Reader.list codec.read, fun as => .array (as.map codec.write)⟩

/-- Maps, as objects. -/
def map (codec : Codec α) : Codec (SortedMap α) :=
  ⟨Reader.map codec.read, fun m => .object (m.entries.map fun e => (e.1, codec.write e.2))⟩

/-- A type with finitely many values, by their names. -/
def enumeration (known : List (String × α)) (name : α → String) : Codec α :=
  ⟨Reader.enumeration known, fun a => .string (name a)⟩

end Codec

end ProcessCompiler.Json
