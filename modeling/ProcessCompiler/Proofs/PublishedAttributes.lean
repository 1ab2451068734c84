import ProcessCompiler.Attributes
import ProcessCompiler.Proofs.Conformance

/-!
# What the schemas of attributes allow can be read

Each type of node publishes a schema of its attributes, and a type can be told whatever its schema allows, with one
exception. The priority of a constraint is a word of 32 bits, of which the schema says no more than that it is a whole
number from zero. So it allows numbers that are too great, and whole numbers that are written with a point. What is
allowed and cannot be read is always a split with such a priority.

* `BuiltinType.validates_published_iff`: whether a schema of attributes allows a value can be decided.
* `BuiltinType.takes`: every type but the split can be told what its schema allows.
* `Constraint.exists_read_iff`: a constraint that is allowed can be read exactly if its priority is a word.
* `BuiltinType.exists_readAttributes_iff`: the attributes of every type.
-/

namespace ProcessCompiler

namespace Json

/-! ## Truth values and words -/

theorem exists_bool_of_hasType {v : Value} (h : v.hasType JsonType.boolean.name = true) : ∃ b, v = .bool b := by
  cases v <;> simp [Value.hasType, JsonType.name] at h ⊢

/-- **Whether a value is a whole number of 32 bits without sign**, and written as one. -/
def Value.isWord32 : Value → Bool
  | .number (.integer n _) => decide (0 ≤ n ∧ n < 0x100000000)
  | _ => false

theorem Reader.exists_word32_iff (origin : Origin) {v : Value} :
    (∃ n, Reader.word32 origin (.ofValue v) = .ok n) ↔ v.isWord32 = true := by
  match v with
  | .number (.integer n bounds) =>
    by_cases word : 0 ≤ n ∧ n < 0x100000000
    · simp [Tree.ofValue, Reader.word32, Value.isWord32, word]
    · simp [Tree.ofValue, Reader.word32, Value.isWord32, word]
  | .null | .bool _ | .number (.double _) | .string _ | .array _ | .object _ =>
    refine iff_of_false ?_ Bool.false_ne_true
    rintro ⟨n, read⟩
    cases read

/-! ## Lists and records -/

section Records

variable {α β σ τ : Type} {origin inside : Origin}

/-- The value under a key, where no key comes twice. -/
theorem Value.field?_eq_some_iff {fields : List (String × Value)} (distinct : (fields.map (·.1)).Nodup)
    {name : String} {v : Value} : (Value.object fields).field? name = some v ↔ (name, v) ∈ fields := by
  rw [Value.field?]
  induction fields with
  | nil => simp
  | cons f fields ih =>
    obtain ⟨key, w⟩ := f
    obtain ⟨fresh, others⟩ := List.nodup_cons.1 distinct
    by_cases same : key = name
    · subst same
      have elsewhere : (key, v) ∉ fields := fun among => fresh (List.mem_map_of_mem (f := (·.1)) among)
      simp [elsewhere, eq_comm]
    · simpa [same, Ne.symm same] using ih others

theorem Reader.exists_list_iff {reader : Reader α} (entered : origin.enter = .ok inside) {vs : List Value} :
    (∃ as, reader.list origin (.ofValue (.array vs)) = .ok as) ↔
      ∀ v ∈ vs, ∃ a, reader inside (.ofValue v) = .ok a := by
  rw [← exists_forall₂_iff]
  refine exists_congr fun as => list_array_eq_ok_iff.trans ⟨?_, fun each => ⟨inside, entered, each⟩⟩
  rintro ⟨inside', entered', each⟩
  cases entered.symm.trans entered'
  exact each

theorem Record.exists_fits_cons {field : Field α} {rest : Record σ τ} {fields : List (String × Value)} :
    (∃ values, (Record.cons field rest).Fits origin fields values) ↔
      (∃ value, field.Fits origin (occurrences field.name fields) value) ∧
        ∃ values, rest.Fits origin fields values :=
  ⟨fun ⟨(value, values), front, behind⟩ => ⟨⟨value, front⟩, values, behind⟩,
    fun ⟨⟨value, front⟩, values, behind⟩ => ⟨(value, values), front, behind⟩⟩

theorem Record.exists_read_codec_iff {record : Record σ τ} (distinct : record.names.Nodup)
    (entered : origin.enter = .ok inside) {name : String} {make : τ → β} {fields : β → τ}
    {members : List (String × Value)} :
    (∃ b, (record.codec name make fields).read origin (.ofValue (.object members)) = .ok b) ↔
      ∃ values, record.Fits inside members values := by
  constructor
  · rintro ⟨b, read⟩
    obtain ⟨values, read, _⟩ := map_eq_ok_iff.1 read
    obtain ⟨inside', entered', fits⟩ := (read_object_eq_ok_iff distinct).1 read
    cases entered.symm.trans entered'
    exact ⟨values, fits⟩
  · rintro ⟨values, fits⟩
    exact ⟨make values, map_eq_ok_iff.2 ⟨values, (read_object_eq_ok_iff distinct).2 ⟨inside, entered, fits⟩, rfl⟩⟩

end Records

section Fields

variable {α : Type} {refers : String → Value → Bool} {members fields : List (String × Value)} {required : List String}
  {schemas : List (String × Schema)}

/-- What the schema of a record allows has a value of a field exactly if what stands under its name reads: a field that
may not lack is there. -/
theorem exists_fits_iff_of_describes (describes : DescribesRecord members required schemas)
    (allows : Allowed refers (.object members) (.object fields)) (keys : (fields.map (·.1)).Nodup) {field : Field α}
    (there : field.name ∈ required ∨ field.absent.isSome = true) :
    (∃ value, field.Fits .value (occurrences field.name fields) value) ↔
      ∀ w, (field.name, w) ∈ fields → ∃ value, field.codec.read .value (.ofValue w) = .ok value := by
  rw [Field.exists_fits_iff keys, and_iff_right]
  refine there.imp_left fun needed => ?_
  obtain ⟨names, said, among⟩ := describes.required field.name needed
  exact required_of_mem allows said field.name ((texts_strings names).symm ▸ among)

/-- A field has a value if it takes what its schema allows. -/
theorem exists_fits_of_takes (describes : DescribesRecord members required schemas)
    (allows : Allowed refers (.object members) (.object fields)) (distinct : (Value.object fields).isDistinct = true)
    {field : Field α} {schema : Schema} (takes : ∀ h, field.Takes refers h required field.name schema)
    (listed : (field.name, schema) ∈ schemas) :
    ∃ value, field.Fits .value (occurrences field.name fields) value := by
  obtain ⟨keys, within⟩ := Value.isDistinct_object.1 distinct
  refine (exists_fits_iff_of_describes describes allows keys (takes 0).there).2 fun w among => ?_
  have allowed := property_of_mem allows describes.properties (mem_writeMembers listed) among
  exact (takes _).read (Nat.lt_succ_self _) (within _ among) allowed

end Fields

/-- What a reference allows in a document, the definition that it leads to allows. -/
theorem exists_allowed_of_follow {document schema v : Value} {target : String} {depth : Nat}
    (found : document.resolve? target = some schema) (allows : follow document depth target v = true) :
    ∃ less, Allowed (follow document less) schema v := by
  cases depth with
  | zero => cases allows
  | succ less =>
    rw [follow, found] at allows
    exact ⟨less, allows⟩

/-! ## Definitions without references -/

theorem Value.exists_mem_of_resolve? {document schema : Value} {target : String} {definitions : List (String × Value)}
    (holds : document.field? "definitions" = some (.object definitions))
    (found : document.resolve? target = some schema) : ∃ name, (name, schema) ∈ definitions := by
  rw [Value.resolve?, holds] at found
  obtain ⟨⟨name, _⟩, first, rfl⟩ := Option.map_eq_some_iff.1 found
  exact ⟨name, List.mem_of_find?_eq_some first⟩

/-- **Where no definition refers further**, one step follows every reference to its end. -/
theorem follow_succ_eq {document : Value} (flat : ∀ target schema, document.resolve? target = some schema →
    ∀ refers refers' v, accepts refers schema v = accepts refers' schema v) (depth : Nat) :
    follow document (depth + 1) = follow document 1 := by
  funext target v
  rw [follow, follow]
  cases found : document.resolve? target with
  | none => rfl
  | some schema => exact flat target schema found _ _ v

end Json

/-! ## Types without constraints -/

section Takes

open Json

variable {refers : String → Value → Bool} {h : Nat}

theorem takes_boolean {description : String} {default : Bool} :
    Reader.bool.Takes (Allowed refers (Schema.boolean description default).write) h := by
  refine .typed mem_behind_description ?_
  rintro v _ _ ⟨ofType, _⟩
  obtain ⟨b, rfl⟩ := exists_bool_of_hasType ofType
  exact ⟨b, rfl⟩

theorem takes_string : Reader.string.Takes (Allowed refers (Schema.type [.string]).write) h :=
  .typed List.mem_cons_self .string

theorem SplitKind.takes :
    (Reader.enumeration SplitKind.byName).Takes (Allowed refers splitKindSchema.write) h := by
  refine .enumeration (fun _ among => List.mem_cons_of_mem _ among) ?_
  decide

theorem JoinKind.takes : (Reader.enumeration JoinKind.byName).Takes (Allowed refers joinKindSchema.write) h := by
  refine .enumeration (fun _ among => List.mem_cons_of_mem _ among) ?_
  decide

/-- What the schema document of a record says about its fields. -/
theorem describes_document {title description : String} {required : List String} {members : List (String × Schema)}
    {definitions : List (String × Schema)} : DescribesRecord
      (SchemaDocument.write ⟨.titled title (.record description required members), definitions⟩) required members :=
  (DescribesRecord.titled (.record ..)).mono fun _ among =>
    List.mem_append_left _ (List.mem_cons_of_mem _ among)

/-- **A record takes what its schema document allows**, if its fields take what is said of them. -/
theorem takes_document {β σ τ : Type} {record : Record σ τ} {title description : String} {required : List String}
    {members definitions : List (String × Schema)} (takes : Record.Takes refers h required members record)
    (names : record.names.Nodup) {name : String} {make : τ → β} {fields : β → τ} :
    (record.codec name make fields).read.Takes (Allowed refers
      (.object (SchemaDocument.write ⟨.titled title (.record description required members), definitions⟩))) (h + 1) :=
  (takes.read describes_document names name).map_result make

namespace BuiltinType

/-- The schema of the attributes of a type as JSON. -/
def published (type : BuiltinType) : Value := .object type.schema.write

/-- The definitions in the schemas of attributes are kinds and constraints, which refer no further. -/
theorem flat_published (type : BuiltinType) : ∀ target schema, type.published.resolve? target = some schema →
    ∀ refers refers' v, accepts refers schema v = accepts refers' schema v := by
  intro target schema found refers refers' v
  cases type with
  | split =>
    obtain ⟨name, listed⟩ := Value.exists_mem_of_resolve? rfl found
    rcases List.mem_pair.1 listed with same | same <;> cases same <;> rfl
  | join =>
    obtain ⟨name, listed⟩ := Value.exists_mem_of_resolve? rfl found
    cases List.mem_singleton.1 listed
    rfl
  | _ => cases found

/-- **Whether the schema of a type allows attributes can be decided**: its references are followed to their end. -/
theorem validates_published_iff {type : BuiltinType} {v : Value} : type.published.Validates v ↔
    accepts (follow type.published 1) type.published v = true := by
  constructor
  · rintro ⟨depth, allows⟩
    rw [← follow_succ_eq type.flat_published depth, Nat.add_comm]
    exact allows 1
  · intro allows
    refine ⟨1, fun more => ?_⟩
    rw [follow_succ_eq type.flat_published]
    exact allows

instance (type : BuiltinType) (v : Value) : Decidable (type.published.Validates v) :=
  decidable_of_iff _ validates_published_iff.symm

/-- **Every type but the split can be told what its schema allows.** -/
theorem takes {type : BuiltinType} (plain : type ≠ .split) (depth : Nat) :
    type.codec.read.Takes (Allowed (follow type.published depth) type.published) h := by
  refine Reader.Takes.mono ?_ (Nat.le_succ h)
  cases type with
  | start =>
    refine takes_document ?_ (by decide)
    exact .cons (.optional _ takes_optionalText) .nil
  | finish =>
    refine takes_document ?_ (by decide)
    exact .cons (.withDefault _ takes_boolean _ _) .nil
  | task =>
    refine takes_document ?_ (by decide)
    exact .cons (.required _ takes_text (by decide)) <| .cons (.optional _ takes_optionalText) .nil
  | workItem =>
    refine takes_document ?_ (by decide)
    exact .cons (.required _ takes_text (by decide)) <| .cons (.withDefault _ (takes_mapOf takes_string) _ _) .nil
  | split => exact absurd rfl plain
  | join =>
    refine takes_document ?_ (by decide)
    exact .cons (.required _ (takes_defined (.follow rfl fun _ _ => JoinKind.takes)) (by decide)) .nil
  | timer =>
    refine takes_document ?_ (by decide)
    exact .cons (.required _ takes_text (by decide)) .nil
  | milestone =>
    refine takes_document ?_ (by decide)
    exact .cons (.required _ takes_text (by decide)) .nil
  | subProcess =>
    refine takes_document ?_ (by decide)
    exact .cons (.withDefault _ takes_boolean _ _) .nil
  | forEach =>
    refine takes_document ?_ (by decide)
    exact .cons (.required _ takes_text (by decide)) <| .cons (.required _ takes_text (by decide)) <|
      .cons (.optional _ takes_optionalText) .nil
  | eventSubProcess =>
    refine takes_document ?_ (by decide)
    exact .cons (.required _ takes_text (by decide)) .nil

end BuiltinType

end Takes

/-! ## Splits -/

section Splits

open Json

/-- **A constraint that its schema allows can be read exactly if its priority is a word**, or lacks. -/
theorem Constraint.exists_read_iff {refers : String → Value → Bool} {v : Value} (distinct : v.isDistinct = true)
    (allows : Allowed refers constraintSchema.write v) :
    (∃ c, Constraint.codec.read .value (.ofValue v) = .ok c) ↔
      ∀ p, v.field? "priority" = some p → p.isWord32 = true := by
  have describes : DescribesRecord constraintSchema.writeKeywords _ _ := .record ..
  obtain ⟨fields, rfl⟩ := exists_object_of_hasType (hasType_of_typed describes.type allows)
  obtain ⟨keys, _⟩ := Value.isDistinct_object.1 distinct
  have target : ∃ value, (Field.required "to" Codec.string).Fits .value (occurrences "to" fields) value :=
    exists_fits_of_takes describes allows distinct (fun _ => .required _ takes_text (by decide)) List.mem_cons_self
  have expr : ∃ value, (Field.required "expr" Codec.string).Fits .value (occurrences "expr" fields) value :=
    exists_fits_of_takes describes allows distinct (fun _ => .required _ takes_text (by decide))
      (List.mem_cons_of_mem _ List.mem_cons_self)
  have priority : (∃ value, (Field.withDefault "priority" Codec.word32 0 fun _ => false).Fits .value
      (occurrences "priority" fields) value) ↔
      ∀ p, (Value.object fields).field? "priority" = some p → p.isWord32 = true := by
    refine (exists_fits_iff_of_describes describes allows keys (.inr rfl)).trans (forall_congr' fun p => ?_)
    rw [Value.field?_eq_some_iff keys]
    exact imp_congr_right fun _ => Reader.exists_word32_iff .value
  rw [Constraint.codec, Record.exists_read_codec_iff (by decide) rfl, constraintRecord, Record.exists_fits_cons,
    Record.exists_fits_cons, Record.exists_fits_cons]
  exact ⟨fun ⟨_, _, fits, _⟩ => priority.1 fits, fun words => ⟨target, expr, priority.2 words, (), trivial⟩⟩

namespace BuiltinType

/-- The priorities of the constraints of a split, as its attributes have them. -/
def priorities (type : BuiltinType) (attributes : Value) : List Value :=
  match type, attributes.field? "constraints" with
  | .split, some (.array constraints) => constraints.filterMap (·.field? "priority")
  | _, _ => []

theorem priorities_of_ne {type : BuiltinType} (plain : type ≠ .split) (attributes : Value) :
    type.priorities attributes = [] := by
  cases type with
  | split => exact absurd rfl plain
  | _ => rfl

/-- **Constraints that the schema of a split allows** are an array, and can be read exactly if all priorities are
words. -/
theorem exists_readConstraints_iff {v : Value} {depth : Nat} {description : String} (distinct : v.isDistinct = true)
    (allows : Allowed (follow split.published depth) (Schema.listOf description "SplitConstraint" false).write v) :
    ∃ items, v = .array items ∧ ((∃ cs, (Reader.list Constraint.codec.read) .value (.ofValue v) = .ok cs) ↔
      ∀ p ∈ items.filterMap (·.field? "priority"), p.isWord32 = true) := by
  obtain ⟨items, rfl⟩ := exists_array_of_hasType (hasType_of_typed mem_behind_description allows)
  have each : ∀ item ∈ items, (∃ c, Constraint.codec.read .value (.ofValue item) = .ok c) ↔
      ∀ p, item.field? "priority" = some p → p.isWord32 = true := by
    intro item among
    have referred := items_of_mem allows mem_behind_type item among
    obtain ⟨less, allowed⟩ := exists_allowed_of_follow rfl (refers_of_mem referred List.mem_cons_self)
    exact Constraint.exists_read_iff (Value.isDistinct_array.1 distinct item among) allowed
  refine ⟨items, rfl, ?_⟩
  rw [Reader.exists_list_iff rfl]
  constructor
  · intro read p listed
    obtain ⟨item, among, found⟩ := List.mem_filterMap.1 listed
    exact (each item among).1 (read item among) p found
  · intro words item among
    exact (each item among).2 fun p found => words p (List.mem_filterMap.2 ⟨item, among, found⟩)

/-- **A split that its schema allows can be told exactly if all priorities are words.** -/
theorem exists_readSplit_iff {fields : List (String × Value)} {depth : Nat}
    (distinct : (Value.object fields).isDistinct = true)
    (allows : Allowed (follow split.published depth) split.published (.object fields)) :
    (∃ a, split.codec.read .value (.ofValue (.object fields)) = .ok a) ↔
      ∀ p ∈ split.priorities (.object fields), p.isWord32 = true := by
  have describes : DescribesRecord split.schema.write _ _ := describes_document
  obtain ⟨keys, within⟩ := Value.isDistinct_object.1 distinct
  have kind : ∃ value, (Field.required "kind" (.enumeration SplitKind.byName SplitKind.name)).Fits .value
      (occurrences "kind" fields) value :=
    exists_fits_of_takes describes allows distinct
      (fun _ => .required _ (takes_defined (.follow rfl fun _ _ => SplitKind.takes)) (by decide)) List.mem_cons_self
  have constraints : (∃ value, (Field.withDefault "constraints" (.list Constraint.codec) [] List.isEmpty).Fits .value
      (occurrences "constraints" fields) value) ↔
      ∀ p ∈ split.priorities (.object fields), p.isWord32 = true := by
    refine (exists_fits_iff_of_describes describes allows keys (.inr rfl)).trans ?_
    change (∀ w, ("constraints", w) ∈ fields → _) ↔ _
    simp only [← Value.field?_eq_some_iff keys]
    cases found : (Value.object fields).field? "constraints" with
    | none => simp [priorities, found]
    | some w =>
      have among := (Value.field?_eq_some_iff keys).1 found
      have allowed := property_of_mem allows describes.properties
        (mem_writeMembers (List.mem_cons_of_mem _ List.mem_cons_self)) among
      obtain ⟨items, rfl, read⟩ := exists_readConstraints_iff (within _ among) allowed
      simp only [Option.some.injEq, forall_eq', priorities, found]
      exact read
  rw [codec, Record.exists_read_codec_iff (by decide) rfl, Record.exists_fits_cons, Record.exists_fits_cons]
  exact ⟨fun ⟨_, fits, _⟩ => constraints.1 fits, fun words => ⟨kind, constraints.2 words, (), trivial⟩⟩

/-- **Attributes that the schema of their type allows can be read exactly if all priorities in them are words.** Only a
split has priorities, so that every other type can be told whatever its schema allows. Attributes are JSON values, in
which an object has each key once. -/
theorem exists_readAttributes_iff {type : BuiltinType} {attributes : SortedMap Value} {schema : Value}
    (published : type.entry.field? "schema" = some schema)
    (distinct : (Value.object attributes.entries).isDistinct = true)
    (valid : schema.Validates (.object attributes.entries)) :
    (∃ a, type.readAttributes attributes = .ok a) ↔
      ∀ p ∈ type.priorities (.object attributes.entries), p.isWord32 = true := by
  obtain rfl : type.published = schema := Option.some.inj published
  obtain ⟨depth, allows⟩ := valid
  by_cases forks : type = .split
  · subst forks
    exact exists_readSplit_iff distinct (allows 0)
  · have read := takes forks _ (Nat.lt_succ_self _) distinct (allows 0)
    have none : type.priorities (.object attributes.entries) = [] := priorities_of_ne forks _
    rw [none]
    exact iff_of_true read (List.forall_mem_nil _)

/-- A split with two constraints, the first of them with the greatest word as its priority. -/
def rankedSplit : SortedMap Value :=
  .ofList [("kind", .string "or"), ("color", .null),
    ("constraints", .array [
      .object [("expr", .string "total > 10"), ("to", .string "ship"),
        ("priority", .ofNat 4294967295)],
      .object [("expr", .string "paid"), ("when", .array []), ("to", .string "wait")]])]

theorem exists_readAttributes_iff_ranked : split.entry.field? "schema" = some split.published ∧
    (Value.object rankedSplit.entries).isDistinct = true ∧
      split.published.Validates (.object rankedSplit.entries) ∧ ∃ a, split.readAttributes rankedSplit = .ok a := by
  have distinct : (Value.object rankedSplit.entries).isDistinct = true := by decide +kernel
  have valid : split.published.Validates (.object rankedSplit.entries) := by decide +kernel
  have words : ∀ p ∈ split.priorities (.object rankedSplit.entries), p.isWord32 = true := by
    intro p among
    obtain rfl := List.mem_singleton.1 among
    rfl
  exact ⟨rfl, distinct, valid, (exists_readAttributes_iff rfl distinct valid).2 words⟩

/-- A split with a constraint whose priority is one more than the greatest word. -/
def overrankedSplit : SortedMap Value :=
  .ofList [("kind", .string "xor"),
    ("constraints", .array [
      .object [("to", .string "ship"), ("expr", .string "total > 10"),
        ("priority", .ofNat 4294967296)]])]

/-- The schema of splits allows a priority that is too great, and no split can be told it. -/
theorem not_readAttributes_overranked : split.entry.field? "schema" = some split.published ∧
    (Value.object overrankedSplit.entries).isDistinct = true ∧
      split.published.Validates (.object overrankedSplit.entries) ∧
        ¬ ∃ a, split.readAttributes overrankedSplit = .ok a := by
  have refused : split.readAttributes overrankedSplit = .error (.wrongValue (.integer 4294967296) "u32") := rfl
  refine ⟨rfl, by decide +kernel, by decide +kernel, ?_⟩
  rintro ⟨a, read⟩
  cases refused.symm.trans read

end BuiltinType

end Splits

end ProcessCompiler
