import ProcessCompiler.Schema

/-!
# What schemas allow

A schema is itself a JSON value. Each of its keywords says something about the values that it allows, and the other
members of a schema object are annotations. References lead into the definitions of the document that the schema stands
in, which may lead to themselves again, so that they are followed to a depth.

* `accepts`: whether a schema allows a value, given what the references in it allow.
* `Value.Validates`: whether a schema document allows a value, its references followed as deep as they go.
* `holds_of_accepts`: what the single keywords of a schema say about what it allows.
-/

namespace ProcessCompiler.Json

/-! ## Numbers and types -/

/-- The number that a double stands for. -/
def Double.toRat (x : Double) : Rat :=
  let (m, q) := x.parts
  let signed : Int := if x.isNegative then -m else m
  match q with
  | .ofNat k => (signed * Nat.pow 2 k : Int)
  | .negSucc k => mkRat signed (Nat.pow 2 (k + 1))

/-- The number that a JSON number stands for. -/
def Number.toRat : Number → Rat
  | .integer value _ => value
  | .double value => value.toRat

/-- Whether a value is of the type that a schema calls by a name. A number without a fraction is an integer, however it
is written. -/
def Value.hasType (v : Value) (name : String) : Bool :=
  match v with
  | .null => name == "null"
  | .bool _ => name == "boolean"
  | .number n => name == "number" || (name == "integer" && n.toRat.den == 1)
  | .string _ => name == "string"
  | .array _ => name == "array"
  | .object _ => name == "object"

/-- The texts that a value lists; a text alone lists itself. -/
def Value.texts : Value → List String
  | .string text => [text]
  | .array items => items.filterMap fun item => match item with
    | .string text => some text
    | _ => none
  | _ => []

/-- How many items an array has. -/
def Value.size : Value → Nat
  | .array items => items.length
  | _ => 0

/-- Whether a value is one of the texts. -/
def Value.isAmong (v : Value) (texts : List String) : Bool :=
  match v with
  | .string text => texts.contains text
  | _ => false

/-- Whether a value is at least as great as a number, if it is a number. -/
def Value.isAtLeast (v bound : Value) : Bool :=
  match v, bound with
  | .number n, .number least => least.toRat ≤ n.toRat
  | _, _ => true

/-- Whether a value has a field, if it is an object. -/
def Value.hasField (v : Value) (name : String) : Bool :=
  match v with
  | .object fields => fields.any fun f => f.1 == name
  | _ => true

/-- Whether all fields of a value are allowed, if it is an object. -/
def Value.allFields (v : Value) (allowed : String → Value → Bool) : Bool :=
  match v with
  | .object fields => fields.all fun f => allowed f.1 f.2
  | _ => true

/-- Whether all items of a value are allowed, if it is an array. -/
def Value.allItems (v : Value) (allowed : Value → Bool) : Bool :=
  match v with
  | .array items => items.all allowed
  | _ => true

/-! ## Keywords -/

/-- What a member of a schema object says. -/
inductive Keyword where
  | type
  | enumeration
  | minimum
  | required
  | properties
  | additional
  | items
  | allOf
  | oneOf
  | reference
  | note
  deriving DecidableEq

/-- The keywords by their names in a schema. -/
def Keyword.byName : List (String × Keyword) :=
  [("type", .type), ("enum", .enumeration), ("minimum", .minimum), ("required", .required),
    ("properties", .properties), ("additionalProperties", .additional), ("items", .items), ("allOf", .allOf),
    ("oneOf", .oneOf), ("$ref", .reference)]

/-- The keyword of a name. All other names are those of annotations. -/
def Keyword.ofName (name : String) : Keyword := (byName.lookup name).getD .note

/-- The names that the properties of a schema object list. -/
def propertyNames (members : List (String × Value)) : List String :=
  match members.lookup "properties" with
  | some (.object properties) => properties.map (·.1)
  | _ => []

section Accepts

variable (refers : String → Value → Bool)

mutual

/-- **Whether a schema allows a value**, if the references in it allow what `refers` says. -/
def accepts : Value → Value → Bool
  | .bool allows, _ => allows
  | .object members, v => acceptsMembers (propertyNames members) members v
  | _, _ => false
termination_by structural schema => schema

/-- Whether all members of a schema object allow a value. What the properties list is not additional. -/
def acceptsMembers (listed : List String) : List (String × Value) → Value → Bool
  | [], _ => true
  | (name, argument) :: members, v =>
    (match Keyword.ofName name with
      | .type => argument.texts.any v.hasType
      | .enumeration => v.isAmong argument.texts
      | .minimum => v.isAtLeast argument
      | .required => argument.texts.all v.hasField
      | .properties => v.allFields fun key w => acceptsProperty argument key w
      | .additional => v.allFields fun key w => listed.contains key || accepts argument w
      | .items => v.allItems fun item => accepts argument item
      | .allOf => countAccepting argument v == argument.size
      | .oneOf => countAccepting argument v == 1
      | .reference => argument.texts.all fun target => refers target v
      | .note => true) && acceptsMembers listed members v
termination_by structural members => members

/-- Whether the schemas of properties allow a field. -/
def acceptsProperty : Value → String → Value → Bool
  | .object properties, key, v => acceptsField properties key v
  | _, _, _ => true
termination_by structural properties => properties

/-- Whether the schemas that are given for a key allow a field. -/
def acceptsField : List (String × Value) → String → Value → Bool
  | [], _, _ => true
  | (name, schema) :: properties, key, v => (key != name || accepts schema v) && acceptsField properties key v
termination_by structural properties => properties

/-- How many schemas of an array allow a value. -/
def countAccepting : Value → Value → Nat
  | .array schemas, v => countAcceptingAmong schemas v
  | _, _ => 0
termination_by structural schemas => schemas

/-- How many schemas allow a value. -/
def countAcceptingAmong : List Value → Value → Nat
  | [], _ => 0
  | schema :: schemas, v => (accepts schema v).toNat + countAcceptingAmong schemas v
termination_by structural schemas => schemas

end

end Accepts

/-! ## Single members -/

section Members

variable {refers : String → Value → Bool} {listed : List String} {members fields : List (String × Value)}
  {argument v : Value}

theorem accepts_of_acceptsField {properties : List (String × Value)} {name : String} {schema : Value}
    (h : acceptsField refers properties name v = true) (given : (name, schema) ∈ properties) :
    accepts refers schema v = true := by
  induction properties with
  | nil => cases given
  | cons property properties ih =>
    obtain ⟨key, first⟩ := property
    rw [acceptsField, Bool.and_eq_true] at h
    rcases List.mem_cons.1 given with same | given
    · cases same
      simpa using h.1
    · exact ih h.2 given

theorem countAcceptingAmong_eq (schemas : List Value) :
    countAcceptingAmong refers schemas v = schemas.countP (accepts refers · v) := by
  induction schemas with
  | nil => rfl
  | cons schema schemas ih =>
    cases allows : accepts refers schema v <;> simp [countAcceptingAmong, allows, ih, Nat.add_comm]

theorem acceptsMembers_iff :
    acceptsMembers refers listed members v = true ↔ ∀ m ∈ members, acceptsMembers refers listed [m] v = true := by
  induction members with
  | nil => simp [acceptsMembers]
  | cons m members ih =>
    rw [List.forall_mem_cons, ← ih]
    simp [acceptsMembers]

/-- **Each member of a schema object says its part** of what the schema allows. -/
theorem acceptsMembers_of_mem (h : accepts refers (.object members) v = true) {name : String}
    (member : (name, argument) ∈ members) :
    acceptsMembers refers (propertyNames members) [(name, argument)] v = true := by
  rw [accepts] at h
  exact acceptsMembers_iff.1 h _ member

theorem hasType_of_mem (h : accepts refers (.object members) v = true) (member : ("type", argument) ∈ members) :
    ∃ name ∈ argument.texts, v.hasType name = true := by
  have named : Keyword.ofName "type" = .type := by decide
  simpa [acceptsMembers, named] using acceptsMembers_of_mem h member

theorem text_of_mem (h : accepts refers (.object members) v = true) (member : ("enum", argument) ∈ members) :
    ∃ text ∈ argument.texts, v = .string text := by
  have named : Keyword.ofName "enum" = .enumeration := by decide
  have among : v.isAmong argument.texts = true := by
    simpa [acceptsMembers, named] using acceptsMembers_of_mem h member
  cases v with
  | string text => exact ⟨text, List.contains_iff_mem.1 among, rfl⟩
  | _ => cases among

theorem required_of_mem (h : accepts refers (.object members) (.object fields) = true)
    (member : ("required", argument) ∈ members) : ∀ name ∈ argument.texts, ∃ w, (name, w) ∈ fields := by
  have named : Keyword.ofName "required" = .required := by decide
  simpa [acceptsMembers, named, Value.hasField] using acceptsMembers_of_mem h member

theorem property_of_mem {properties : List (String × Value)} {name : String} {schema w : Value}
    (h : accepts refers (.object members) (.object fields) = true)
    (member : ("properties", .object properties) ∈ members) (given : (name, schema) ∈ properties)
    (field : (name, w) ∈ fields) : accepts refers schema w = true := by
  have named : Keyword.ofName "properties" = .properties := by decide
  have all : ∀ key w, (key, w) ∈ fields → acceptsField refers properties key w = true := by
    simpa [acceptsMembers, named, Value.allFields, acceptsProperty] using acceptsMembers_of_mem h member
  exact accepts_of_acceptsField (all name w field) given

theorem additional_of_mem (h : accepts refers (.object members) (.object fields) = true)
    (bare : propertyNames members = []) (member : ("additionalProperties", argument) ∈ members) :
    ∀ f ∈ fields, accepts refers argument f.2 = true := by
  have named : Keyword.ofName "additionalProperties" = .additional := by decide
  have said := acceptsMembers_of_mem h member
  rw [bare] at said
  simpa [acceptsMembers, named, Value.allFields] using said

theorem items_of_mem {items : List Value} (h : accepts refers (.object members) (.array items) = true)
    (member : ("items", argument) ∈ members) : ∀ item ∈ items, accepts refers argument item = true := by
  have named : Keyword.ofName "items" = .items := by decide
  simpa [acceptsMembers, named, Value.allItems] using acceptsMembers_of_mem h member

/-- What all schemas of an array allow, each allows. -/
theorem accepts_of_allOf {schemas : List Value} {schema : Value} (h : accepts refers (.object members) v = true)
    (member : ("allOf", .array schemas) ∈ members) (listed : schema ∈ schemas) : accepts refers schema v = true := by
  have named : Keyword.ofName "allOf" = .allOf := by decide
  have all : countAcceptingAmong refers schemas v = schemas.length := by
    simpa [acceptsMembers, named, countAccepting, Value.size] using acceptsMembers_of_mem h member
  rw [countAcceptingAmong_eq] at all
  exact List.countP_eq_length.1 all schema listed

/-- What exactly one schema of an array allows, one does. -/
theorem exists_accepts_of_oneOf {schemas : List Value} (h : accepts refers (.object members) v = true)
    (member : ("oneOf", .array schemas) ∈ members) : ∃ schema ∈ schemas, accepts refers schema v = true := by
  have named : Keyword.ofName "oneOf" = .oneOf := by decide
  have one : countAcceptingAmong refers schemas v = 1 := by
    simpa [acceptsMembers, named, countAccepting] using acceptsMembers_of_mem h member
  rw [countAcceptingAmong_eq] at one
  exact List.countP_pos_iff.1 (one ▸ Nat.one_pos)

theorem refers_of_mem {target : String} (h : accepts refers (.object members) v = true)
    (member : ("$ref", .string target) ∈ members) : refers target v = true := by
  have named : Keyword.ofName "$ref" = .reference := by decide
  simpa [acceptsMembers, named, Value.texts] using acceptsMembers_of_mem h member

end Members

/-! ## Documents -/

/-- The definition that a reference in a schema document leads to. -/
def Value.resolve? (document : Value) (target : String) : Option Value :=
  match document.field? "definitions" with
  | some (.object definitions) => (definitions.find? fun d => "#/definitions/" ++ d.1 == target).map (·.2)
  | _ => none

/-- What a reference allows when it is followed to a depth. -/
def follow (document : Value) : Nat → String → Value → Bool
  | 0, _, _ => false
  | depth + 1, target, v =>
    match document.resolve? target with
    | some schema => accepts (follow document depth) schema v
    | none => false

/-- **Whether a schema document allows a value**: it does when references are followed deep enough, however much
deeper. -/
def Value.Validates (document v : Value) : Prop :=
  ∃ depth, ∀ more, accepts (follow document (more + depth)) document v = true

end ProcessCompiler.Json
