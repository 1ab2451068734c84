import ProcessCompiler.Proofs.RoundTrip
import ProcessCompiler.Proofs.Validity
import ProcessCompiler.Schema.Published

/-!
# What the schema allows can be read

The published schema and the readers describe the same format, each in its own way: keywords against combinators, and
references that lead to themselves against a reader that takes as many levels as a document has. Shape by shape, what
the schema allows is what the reader takes, and the shapes of the one compose as those of the other do.

* `Value.isDistinct`: values in which no object has a key twice.
* `Reader.Takes`: whether a reader takes all that is allowed.
* `Record.Takes.read`: a record whose fields take what their schemas allow takes what the schema of the record allows.
* `ProcessDefinition.exists_ofValue_of_validates`: what the published schema allows can be read.
-/

namespace ProcessCompiler

namespace Json

/-! ## Values without repeated keys -/

mutual

/-- Whether no object in a value has a key twice. -/
def Value.isDistinct : Value → Bool
  | .array items => isDistinctAll items
  | .object fields => decide (fields.map (·.1)).Nodup && isDistinctFields fields
  | _ => true

/-- Whether no object in any of the values has a key twice. -/
def Value.isDistinctAll : List Value → Bool
  | [] => true
  | item :: items => item.isDistinct && isDistinctAll items

/-- Whether no object in any of the fields has a key twice. -/
def Value.isDistinctFields : List (String × Value) → Bool
  | [] => true
  | (_, value) :: fields => value.isDistinct && isDistinctFields fields

end

theorem Value.isDistinct_array {items : List Value} :
    (array items).isDistinct = true ↔ ∀ v ∈ items, v.isDistinct = true := by
  rw [isDistinct]
  induction items with
  | nil => simp [isDistinctAll]
  | cons item items ih => rw [isDistinctAll, Bool.and_eq_true, ih, List.forall_mem_cons]

theorem Value.isDistinct_object {fields : List (String × Value)} :
    (object fields).isDistinct = true ↔ (fields.map (·.1)).Nodup ∧ ∀ f ∈ fields, f.2.isDistinct = true := by
  have all : isDistinctFields fields = true ↔ ∀ f ∈ fields, f.2.isDistinct = true := by
    induction fields with
    | nil => simp [isDistinctFields]
    | cons f fields ih => rw [isDistinctFields, Bool.and_eq_true, ih, List.forall_mem_cons]
  rw [isDistinct, Bool.and_eq_true, decide_eq_true_eq, all]

/-- Where no key comes twice, at most one value stands under a name. -/
theorem length_occurrences_le_one {fields : List (String × Value)} (distinct : (fields.map (·.1)).Nodup)
    (name : String) : (occurrences name fields).length ≤ 1 := by
  induction fields with
  | nil => exact Nat.zero_le 1
  | cons f fields ih =>
    obtain ⟨key, v⟩ := f
    obtain ⟨fresh, others⟩ := List.nodup_cons.1 distinct
    by_cases same : key = name
    · subst same
      have none : occurrences key fields = [] :=
        List.eq_nil_iff_forall_not_mem.2 fun w among => fresh (List.mem_map.2 ⟨(key, w), mem_occurrences.1 among, rfl⟩)
      simp [occurrences_cons_self, none]
    · rw [occurrences_cons_of_ne same]
      exact ih others

/-! ## Values of a type -/

section Types

variable {v : Value}

theorem eq_null_of_hasType (h : v.hasType JsonType.null.name = true) : v = .null := by
  cases v <;> simp [Value.hasType, JsonType.name] at h ⊢

theorem exists_string_of_hasType (h : v.hasType JsonType.string.name = true) : ∃ text, v = .string text := by
  cases v <;> simp [Value.hasType, JsonType.name] at h ⊢

theorem exists_array_of_hasType (h : v.hasType JsonType.array.name = true) : ∃ items, v = .array items := by
  cases v <;> simp [Value.hasType, JsonType.name] at h ⊢

theorem exists_object_of_hasType (h : v.hasType JsonType.object.name = true) : ∃ fields, v = .object fields := by
  cases v <;> simp [Value.hasType, JsonType.name] at h ⊢

theorem writeAll_eq_map (schemas : List Schema) : Schema.writeAll schemas = schemas.map Schema.write := by
  induction schemas with
  | nil => rfl
  | cons schema schemas ih => rw [Schema.writeAll, ih, List.map_cons, Schema.write]

theorem mem_writeMembers {schemas : List (String × Schema)} {name : String} {schema : Schema}
    (listed : (name, schema) ∈ schemas) : (name, schema.write) ∈ Schema.writeMembers schemas := by
  induction schemas with
  | nil => cases listed
  | cons first schemas ih =>
    rw [Schema.writeMembers]
    rcases List.mem_cons.1 listed with rfl | listed
    · exact List.mem_cons_self
    · exact List.mem_cons_of_mem _ (ih listed)

theorem texts_strings (names : List String) : (Value.strings names).texts = names := by
  rw [Value.strings, Value.texts, List.filterMap_map]
  exact List.filterMap_some

theorem texts_typeValue (types : List JsonType) : (Schema.typeValue types).texts = types.map JsonType.name := by
  match types with
  | [t] => rfl
  | [] | _ :: _ :: _ => exact texts_strings _

end Types

/-! ## Readers that take what is allowed -/

theorem exists_forall₂_iff {α β : Type} {R : α → β → Prop} {as : List α} :
    (∃ bs, List.Forall₂ R as bs) ↔ ∀ a ∈ as, ∃ b, R a b := by
  induction as with
  | nil => simp
  | cons a as ih =>
    rw [List.forall_mem_cons, ← ih]
    constructor
    · rintro ⟨_, first | ⟨first, others⟩⟩
      exact ⟨⟨_, first⟩, _, others⟩
    · rintro ⟨⟨b, first⟩, bs, others⟩
      exact ⟨b :: bs, .cons first others⟩

section Takes

variable {α β : Type} {refers : String → Value → Bool} {h : Nat} {members : List (String × Value)}

/-- **Whether a reader takes all that is allowed**, among the values lower than `h` without repeated keys. -/
def Reader.Takes (allowed : Value → Prop) (h : Nat) (reader : Reader α) : Prop :=
  ∀ ⦃v : Value⦄, (Tree.ofValue v).height < h → v.isDistinct = true → allowed v →
    ∃ a, reader .value (.ofValue v) = .ok a

/-- What a schema allows. -/
def Allowed (refers : String → Value → Bool) (schema v : Value) : Prop := accepts refers schema v = true

/-- What a schema allows that is of a type. -/
def AllowedAs (refers : String → Value → Bool) (type : JsonType) (schema v : Value) : Prop :=
  v.hasType type.name = true ∧ accepts refers schema v = true

/-- What a schema with one type allows is of this type. -/
theorem hasType_of_typed {type : JsonType} {v : Value} (types : ("type", Schema.typeValue [type]) ∈ members)
    (allows : Allowed refers (.object members) v) : v.hasType type.name = true := by
  obtain ⟨name, listed, ofType⟩ := hasType_of_mem allows types
  rw [texts_typeValue, List.map_singleton, List.mem_singleton] at listed
  exact listed ▸ ofType

namespace Reader.Takes

variable {reader : Reader α} {allowed : Value → Prop} {type : JsonType} {item : Value}

theorem zero : reader.Takes allowed 0 := fun _ low => absurd low (Nat.not_lt_zero _)

theorem mono {lower : Nat} (takes : reader.Takes allowed h) (le : lower ≤ h) : reader.Takes allowed lower :=
  fun _ low distinct allows => takes (Nat.lt_of_lt_of_le low le) distinct allows

theorem imp {allowed' : Value → Prop} (takes : reader.Takes allowed h) (imp : ∀ v, allowed' v → allowed v) :
    reader.Takes allowed' h := fun _ low distinct allows => takes low distinct (imp _ allows)

/-- What is not null is taken as it is without the option of null. -/
theorem optional (takes : reader.Takes allowed h) : reader.optional.Takes (fun v => v = .null ∨ allowed v) h := by
  intro v low distinct allows
  by_cases null : Tree.ofValue v = .null
  · exact ⟨none, by rw [null]; rfl⟩
  rw [Reader.optional_of_ne_null null]
  rcases allows with rfl | allows
  · exact absurd rfl null
  · obtain ⟨a, read⟩ := takes low distinct allows
    exact ⟨some a, map_eq_ok_iff.2 ⟨a, read, rfl⟩⟩

theorem map_result (takes : reader.Takes allowed h) (f : α → β) :
    Reader.Takes allowed h fun origin tree => f <$> reader origin tree := by
  intro v low distinct allows
  obtain ⟨a, read⟩ := takes low distinct allows
  exact ⟨f a, map_eq_ok_iff.2 ⟨a, read, rfl⟩⟩

/-- **A type alone**: the reader of what is of this type. -/
theorem typed (types : ("type", Schema.typeValue [type]) ∈ members)
    (takes : reader.Takes (AllowedAs refers type (.object members)) h) :
    reader.Takes (Allowed refers (.object members)) h := by
  intro v low distinct allows
  exact takes low distinct ⟨hasType_of_typed types allows, allows⟩

/-- **A type or null**: the reader of what is of this type, or nothing. -/
theorem nullable (types : ("type", Schema.typeValue [type, .null]) ∈ members)
    (takes : reader.Takes (AllowedAs refers type (.object members)) h) :
    reader.optional.Takes (Allowed refers (.object members)) h := by
  intro v low distinct allows
  obtain ⟨name, listed, ofType⟩ := hasType_of_mem allows types
  rw [texts_typeValue, List.map_cons, List.map_singleton, List.mem_pair] at listed
  refine takes.optional low distinct ?_
  rcases listed with rfl | rfl
  · exact .inr ⟨ofType, allows⟩
  · exact .inl (eq_null_of_hasType ofType)

theorem string : Reader.string.Takes (AllowedAs refers .string item) h := by
  rintro v _ _ ⟨ofType, _⟩
  obtain ⟨text, rfl⟩ := exists_string_of_hasType ofType
  exact ⟨text, rfl⟩

theorem any : Reader.Takes allowed h Reader.any := fun v _ _ _ => ⟨v.sorted, Reader.any_ofValue v trivial⟩

theorem optionalAny : Reader.Takes allowed h (Reader.optional Reader.any) :=
  optional any |>.imp fun _ allows => .inr allows

/-- **Arrays**: each item is taken. -/
theorem list (items : ("items", item) ∈ members) (takes : reader.Takes (Allowed refers item) h) :
    reader.list.Takes (AllowedAs refers .array (.object members)) (h + 1) := by
  rintro v low distinct ⟨ofType, allows⟩
  obtain ⟨vs, rfl⟩ := exists_array_of_hasType ofType
  have each : ∀ v ∈ vs, ∃ a, reader .value (.ofValue v) = .ok a := by
    intro v among
    have below := height_lt_of_mem_items among
    exact takes (by omega) (Value.isDistinct_array.1 distinct v among) (items_of_mem allows items v among)
  obtain ⟨as, read⟩ := exists_forall₂_iff.2 each
  exact ⟨as, list_array_eq_ok_iff.2 ⟨.value, rfl, read⟩⟩

/-- **Objects as maps**: each value is taken. -/
theorem map (bare : propertyNames members = []) (values : ("additionalProperties", item) ∈ members)
    (takes : reader.Takes (Allowed refers item) h) :
    reader.map.Takes (AllowedAs refers .object (.object members)) (h + 1) := by
  rintro v low distinct ⟨ofType, allows⟩
  obtain ⟨fields, rfl⟩ := exists_object_of_hasType ofType
  have each : ∀ f ∈ fields, ∃ a, reader .value (.ofValue f.2) = .ok a := by
    intro f among
    have below := height_lt_of_mem_fields among
    have within := (Value.isDistinct_object.1 distinct).2 f among
    exact takes (by omega) within (additional_of_mem allows bare values f among)
  obtain ⟨values, read⟩ := exists_mapFields each .empty
  exact ⟨values, Except.bind_eq_ok_iff.2 ⟨.value, rfl, Except.bind_eq_ok_iff.2 ⟨values, read, rfl⟩⟩⟩

/-- **Names**: each of them is known. -/
theorem enumeration {known : List (String × α)} {names : List (String × String)}
    (variants : (Schema.variants names).writeKeywords ⊆ members)
    (all : ∀ n ∈ names, (SortedMap.lookupEntry n.1 known).isSome) :
    (Reader.enumeration known).Takes (Allowed refers (.object members)) h := by
  intro v _ _ allows
  obtain ⟨schema, listed, allowed⟩ := exists_accepts_of_oneOf allows (variants (List.mem_singleton_self _))
  rw [writeAll_eq_map, List.map_map] at listed
  obtain ⟨⟨name, meaning⟩, among, rfl⟩ := List.mem_map.1 listed
  have enum : ("enum", Value.strings [name]) ∈
      (Schema.described meaning [.type [.string], .enumeration [name]]).writeKeywords := by
    simp [Schema.described, Schema.writeKeywords, Schema.writeParts]
  obtain ⟨text, only, rfl⟩ := text_of_mem allowed enum
  rw [texts_strings, List.mem_singleton] at only
  obtain ⟨a, meant⟩ := Option.isSome_iff_exists.1 (all _ among)
  exact ⟨a, enumeration_eq_ok_iff.2 ⟨name, .inl (congrArg _ only), meant⟩⟩

/-- **References**: what they allow is taken. -/
theorem reference {target : String} (leads : ("$ref", .string target) ∈ members)
    (takes : reader.Takes (fun v => refers target v = true) h) : reader.Takes (Allowed refers (.object members)) h :=
  takes.imp fun _ allows => refers_of_mem allows leads

/-- **Definitions**: a reference that is followed allows what the definition does. -/
theorem follow {document schema : Value} {target : String} {depth : Nat}
    (found : document.resolve? target = some schema)
    (takes : ∀ less, depth = less + 1 → reader.Takes (Allowed (follow document less) schema) h) :
    reader.Takes (fun v => follow document depth target v = true) h := by
  intro v low distinct allows
  cases depth with
  | zero => cases allows
  | succ less =>
    rw [Json.follow, found] at allows
    exact takes less rfl low distinct allows

end Reader.Takes

/-! ## Records -/

/-- **A field has a value exactly if what stands under its name reads**, and if it is there or may lack. -/
theorem Field.exists_fits_iff {field : Field α} {origin : Origin} {fields : List (String × Value)}
    (distinct : (fields.map (·.1)).Nodup) : (∃ value, field.Fits origin (occurrences field.name fields) value) ↔
      ((∃ w, (field.name, w) ∈ fields) ∨ field.absent.isSome = true) ∧
        ∀ w, (field.name, w) ∈ fields → ∃ value, field.codec.read origin (.ofValue w) = .ok value := by
  have once := length_occurrences_le_one distinct field.name
  simp only [← mem_occurrences]
  match under : occurrences field.name fields with
  | [] => simp [Field.Fits, Option.isSome_iff_exists]
  | [w] => simp [Field.Fits]
  | _ :: _ :: _ =>
    rw [under] at once
    simp at once

/-- A field that takes what its schema allows, and that must be there only if the schema of the record `needs` it. -/
structure Field.Takes (refers : String → Value → Bool) (h : Nat) (needs : List String) (name : String)
    (schema : Schema) (field : Field α) : Prop where
  named : field.name = name
  read : field.codec.read.Takes (Allowed refers schema.write) h
  there : name ∈ needs ∨ field.absent.isSome = true

namespace Field.Takes

variable {needs : List String} {schema : Schema} {codec : Codec α}

theorem required (name : String) (takes : codec.read.Takes (Allowed refers schema.write) h) (needed : name ∈ needs) :
    Field.Takes refers h needs name schema (.required name codec) :=
  ⟨rfl, takes, .inl needed⟩

theorem optional (name : String) (takes : codec.read.optional.Takes (Allowed refers schema.write) h) :
    Field.Takes refers h needs name schema (.optional name codec) :=
  ⟨rfl, takes, .inr rfl⟩

theorem withDefault (name : String) (takes : codec.read.Takes (Allowed refers schema.write) h) (value : α)
    (omitted : α → Bool) : Field.Takes refers h needs name schema (.withDefault name codec value omitted) :=
  ⟨rfl, takes, .inr rfl⟩

end Field.Takes

/-- A record of which each field takes what its schema allows. -/
inductive Record.Takes (refers : String → Value → Bool) (h : Nat) (required : List String) :
    {σ τ : Type} → List (String × Schema) → Record σ τ → Prop where
  | nil : Record.Takes refers h required [] .nil
  | cons {α σ τ : Type} {name : String} {schema : Schema} {field : Field α} {schemas : List (String × Schema)}
    {rest : Record σ τ} : Field.Takes refers h required name schema field →
      Record.Takes refers h required schemas rest →
        Record.Takes refers h required ((name, schema) :: schemas) (.cons field rest)

namespace Record.Takes

variable {σ τ : Type} {record : Record σ τ} {required : List String} {schemas : List (String × Schema)}
  {fields : List (String × Value)}

/-- **Fields that are allowed fit the record**, if those that are required are there. -/
theorem exists_fits (takes : Record.Takes refers h required schemas record) (distinct : (fields.map (·.1)).Nodup)
    (within : ∀ f ∈ fields, f.2.isDistinct = true) (low : ∀ f ∈ fields, (Tree.ofValue f.2).height < h)
    (there : ∀ name ∈ required, ∃ w, (name, w) ∈ fields)
    (allows : ∀ name schema w, (name, schema) ∈ schemas → (name, w) ∈ fields → Allowed refers schema.write w) :
    ∃ values, record.Fits .value fields values := by
  induction takes with
  | nil => exact ⟨(), trivial⟩
  | @cons _ _ _ name schema field _ _ front _ ih =>
    obtain ⟨rfl, reads, needed⟩ := front
    obtain ⟨values, fit⟩ := ih fun name schema w listed => allows name schema w (List.mem_cons_of_mem _ listed)
    have front : ∃ value, field.Fits .value (occurrences field.name fields) value := by
      refine (Field.exists_fits_iff distinct).2 ⟨needed.imp_left (there _), fun w among => ?_⟩
      exact reads (low _ among) (within _ among) (allows _ _ _ List.mem_cons_self among)
    obtain ⟨value, fits⟩ := front
    exact ⟨(value, values), fits, fit⟩

end Record.Takes

/-- What the members of a schema object say about the fields of a record. -/
structure DescribesRecord (members : List (String × Value)) (required : List String)
    (schemas : List (String × Schema)) : Prop where
  type : ("type", Schema.typeValue [.object]) ∈ members
  properties : ("properties", .object (Schema.writeMembers schemas)) ∈ members
  required : ∀ name ∈ required, ∃ names, ("required", Value.strings names) ∈ members ∧ name ∈ names

namespace DescribesRecord

theorem mono {more : List (String × Value)} {required : List String} {schemas : List (String × Schema)}
    (describes : DescribesRecord members required schemas) (sub : members ⊆ more) :
    DescribesRecord more required schemas where
  type := sub describes.type
  properties := sub describes.properties
  required name needed := by
    obtain ⟨names, listed, among⟩ := describes.required name needed
    exact ⟨names, sub listed, among⟩

theorem record (description : String) (required : List String) (schemas : List (String × Schema)) :
    DescribesRecord (Schema.record description required schemas).writeKeywords required schemas where
  type := by simp [Schema.record, Schema.described, Schema.writeKeywords, Schema.writeParts]
  properties := by simp [Schema.record, Schema.described, Schema.writeKeywords, Schema.writeParts]
  required name needed := by
    have some : required ≠ [] := List.ne_nil_of_mem needed
    refine ⟨required, ?_, needed⟩
    simp [Schema.record, Schema.described, Schema.writeKeywords, Schema.writeParts, some]

theorem titled {title : String} {schema : Schema} {required : List String} {schemas : List (String × Schema)}
    (describes : DescribesRecord schema.writeKeywords required schemas) :
    DescribesRecord (Schema.titled title schema).writeKeywords required schemas :=
  describes.mono fun member among => by simp [Schema.titled, Schema.writeKeywords, Schema.writeParts, among]

end DescribesRecord

/-- **A record whose fields take what their schemas allow takes what the schema of the record allows.** -/
theorem Record.Takes.read {σ τ : Type} {record : Record σ τ} {required : List String} {schemas : List (String × Schema)}
    (describes : DescribesRecord members required schemas) (takes : Record.Takes refers h required schemas record)
    (names : record.names.Nodup) (name : String) :
    Reader.Takes (Allowed refers (.object members)) (h + 1) (record.read name) := by
  refine Reader.Takes.typed describes.type ?_
  rintro v low distinct ⟨ofType, allows⟩
  obtain ⟨fields, rfl⟩ := exists_object_of_hasType ofType
  obtain ⟨distinct, within⟩ := Value.isDistinct_object.1 distinct
  have fit : ∃ values, record.Fits .value fields values := by
    refine takes.exists_fits distinct within (fun f among => ?_) (fun field needed => ?_)
      fun field schema w listed among => ?_
    · have below := height_lt_of_mem_fields among
      omega
    · obtain ⟨all, listed, among⟩ := describes.required field needed
      exact required_of_mem allows listed field ((texts_strings all).symm ▸ among)
    · exact property_of_mem allows describes.properties (mem_writeMembers listed) among
  obtain ⟨values, fits⟩ := fit
  exact ⟨values, (read_object_eq_ok_iff names).2 ⟨.value, rfl, fits⟩⟩

end Takes

end Json

/-! ## Definitions -/

section Definitions

open Json

variable {refers : String → Value → Bool} {h : Nat}

/-- The keyword behind a description. -/
theorem mem_behind_description {α : Type} {description keyword : α} {others : List α} :
    keyword ∈ description :: keyword :: others := List.mem_cons_of_mem _ List.mem_cons_self

/-- The keyword behind a description and a type. -/
theorem mem_behind_type {α : Type} {description type keyword : α} {others : List α} :
    keyword ∈ description :: type :: keyword :: others := List.mem_cons_of_mem _ mem_behind_description

section Shapes

variable {α : Type} {reader : Reader α} {values : Schema} {description definition : String}

theorem takes_text : Reader.string.Takes (Allowed refers (Schema.text description).write) h :=
  .typed mem_behind_description .string

theorem takes_optionalText :
    Reader.string.optional.Takes (Allowed refers (Schema.optionalText description).write) h :=
  .nullable mem_behind_description .string

theorem takes_reference (takes : reader.Takes (fun v => refers ("#/definitions/" ++ definition) v = true) h) :
    reader.Takes (Allowed refers (Schema.reference definition).write) h :=
  .reference List.mem_cons_self takes

theorem takes_defined (takes : reader.Takes (fun v => refers ("#/definitions/" ++ definition) v = true) h) :
    reader.Takes (Allowed refers (Schema.defined description definition).write) h :=
  (takes_reference takes).imp fun _ allows => accepts_of_allOf allows mem_behind_description List.mem_cons_self

theorem takes_listOf (takes : reader.Takes (fun v => refers ("#/definitions/" ++ definition) v = true) h) :
    reader.list.Takes (Allowed refers (Schema.listOf description definition false).write) h :=
  .typed mem_behind_description ((Reader.Takes.list mem_behind_type (takes_reference takes)).mono (Nat.le_succ h))

theorem takes_optionalListOf (takes : reader.Takes (fun v => refers ("#/definitions/" ++ definition) v = true) h) :
    reader.list.optional.Takes (Allowed refers (Schema.listOf description definition true).write) h :=
  .nullable mem_behind_description ((Reader.Takes.list mem_behind_type (takes_reference takes)).mono (Nat.le_succ h))

theorem takes_mapOf (takes : reader.Takes (Allowed refers values.write) h) :
    reader.map.Takes (Allowed refers (Schema.mapOf description values false).write) h :=
  .typed mem_behind_description ((Reader.Takes.map rfl mem_behind_type takes).mono (Nat.le_succ h))

theorem takes_optionalMapOf (takes : reader.Takes (Allowed refers values.write) h) :
    reader.map.optional.Takes (Allowed refers (Schema.mapOf description values true).write) h :=
  .nullable mem_behind_description ((Reader.Takes.map rfl mem_behind_type takes).mono (Nat.le_succ h))

end Shapes

theorem Connection.takes : Connection.codec.read.Takes (Allowed refers connectionSchema.write) h := by
  refine Reader.Takes.mono ?_ (Nat.le_succ h)
  refine (Record.Takes.read (.record ..) ?_ (by decide) _).map_result _
  exact .cons (.required _ takes_text (by decide)) <| .cons (.required _ takes_text (by decide)) <|
    .cons (.optional _ takes_optionalText) .nil

theorem VariableType.takes :
    (Reader.enumeration VariableType.byName).Takes (Allowed refers variableTypeSchema.write) h := by
  refine .enumeration (fun _ among => List.mem_cons_of_mem _ (List.mem_cons_of_mem _ among)) ?_
  decide

theorem Variable.takes (depth : Nat) : Variable.codec.read.Takes
    (fun v => follow publishedSchema depth ("#/definitions/" ++ "Variable") v = true) h := by
  refine .follow rfl fun _ _ => Reader.Takes.mono ?_ (Nat.le_succ h)
  refine (Record.Takes.read (DescribesRecord.titled (.record ..)) ?_ (by decide) _).map_result _
  exact .cons (.required _ (takes_defined (.follow rfl fun _ _ => VariableType.takes)) (by decide)) <|
    .cons (.optional _ .optionalAny) <| .cons (.optional _ takes_optionalText) .nil

/-- **A node with what is in it**: where the schema follows one more reference, the reader goes one level deeper. -/
theorem NodeDefinition.takes (depth : Nat) : (NodeDefinition.readWithin h).Takes
    (fun v => follow publishedSchema depth ("#/definitions/" ++ "NodeDefinition") v = true) h := by
  induction h generalizing depth with
  | zero => exact .zero
  | succ h ih =>
    refine .follow rfl fun less _ => ?_
    refine (Record.Takes.read (.record ..) ?_ (nodup_names_nodeRecord _) _).map_result _
    exact .cons (.required _ takes_text (by decide)) <| .cons (.required _ takes_text (by decide)) <|
      .cons (.optional _ takes_optionalText) <| .cons (.withDefault _ (takes_mapOf .any) _ _) <|
      .cons (.optional _ (takes_optionalMapOf (takes_reference (Variable.takes less)))) <|
      .cons (.optional _ (takes_optionalListOf (ih less))) <|
      .cons (.withDefault _ (takes_listOf (.follow rfl fun _ _ => Connection.takes)) _ _) .nil

theorem ProcessDefinition.takes (depth : Nat) : ProcessDefinition.codec.read.Takes
    (Allowed (follow publishedSchema depth) publishedSchema) h := by
  have describes : DescribesRecord (definitionSchema.write ++
      [("x-node-types", .array (BuiltinType.byTag.map BuiltinType.entry)), ("x-dsl-version", .string formatVersion)])
      _ _ := (DescribesRecord.titled (.record ..)).mono fun _ among =>
    List.mem_append_left _ (List.mem_cons_of_mem _ (List.mem_append_left _ among))
  have node : NodeDefinition.read.Takes
      (fun v => follow publishedSchema depth ("#/definitions/" ++ "NodeDefinition") v = true) h :=
    fun _ _ => NodeDefinition.takes depth (Nat.lt_succ_self _)
  -- the list of nodes has a default in the schema, so that it is no plain `Schema.listOf`
  have nodes : NodeDefinition.read.list.Takes (Allowed (follow publishedSchema depth)
      (Schema.keywords [.listOf "Top-level nodes, in emission order" "NodeDefinition" false,
        .note "default" (.array [])]).write) h :=
    .typed mem_behind_description ((Reader.Takes.list mem_behind_type (takes_reference node)).mono (Nat.le_succ h))
  refine Reader.Takes.mono ?_ (Nat.le_succ h)
  refine (Record.Takes.read describes ?_ (by decide) _).map_result _
  exact .cons (.required _ takes_text (by decide)) <| .cons (.optional _ takes_optionalText) <|
    .cons (.optional _ takes_optionalText) <|
    .cons (.withDefault _ (takes_mapOf (takes_reference (Variable.takes depth))) _ _) <|
    .cons (.withDefault _ nodes _ _) <|
    .cons (.withDefault _ (takes_listOf (.follow rfl fun _ _ => Connection.takes)) _ _) .nil

/-- **What the published schema allows can be read**: every JSON value that is valid against it is a definition. The
objects of a JSON value have each key once, which the type of values, that keeps fields as they are written, leaves
open. -/
theorem ProcessDefinition.exists_ofValue_of_validates {v : Value} (distinct : v.isDistinct = true)
    (valid : publishedSchema.Validates v) : ∃ d, ProcessDefinition.ofValue v = .ok d := by
  obtain ⟨depth, allows⟩ := valid
  exact ProcessDefinition.takes _ (Nat.lt_succ_self _) distinct (allows 0)

/-- A definition with nodes in nodes, a variable, and null for what is not there. -/
def nestedValue : Value :=
  .object [("id", .string "orders"), ("version", .null),
    ("variables", .object [("total", .object [("type", .string "number"), ("value", .bool true)])]),
    ("nodes", .array [
      .object [("id", .string "box"), ("type", .string "sub"), ("variables", .null),
        ("nodes", .array [.object [("id", .string "open"), ("type", .string "start"), ("nodes", .null)]])]]),
    ("connections", .array [.object [("from", .string "box"), ("to", .string "box"), ("weight", .null)]])]

theorem exists_ofValue_of_validates_nested : nestedValue.isDistinct = true ∧ publishedSchema.Validates nestedValue ∧
    ∃ d, ProcessDefinition.ofValue nestedValue = .ok d := by
  have distinct : nestedValue.isDistinct = true := by decide +kernel
  have valid : publishedSchema.Validates nestedValue := ⟨4, fun more => rfl⟩
  exact ⟨distinct, valid, ProcessDefinition.exists_ofValue_of_validates distinct valid⟩

end Definitions

end ProcessCompiler
