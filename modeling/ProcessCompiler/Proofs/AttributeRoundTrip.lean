import ProcessCompiler.Attributes
import ProcessCompiler.Proofs.RoundTrip

/-!
# Attributes written and read back

A type of node is told its attributes in many ways: a field may lack or be null, a constraint may be an array of its
fields, and what the type does not know is passed over. They are written in one way, which says all that was read: from
the text and from the value that attributes are written as, the type is told the same again.

* `Codec.Faithful`: codecs whose data comes back from all that it is written as.
* `Record.Faithful.codec`: a record is faithful if its fields are.
* `BuiltinType.readAttributes_writeAttributes`: the attributes of each type come back.
-/

namespace ProcessCompiler

namespace Json

/-! ## Values without doubles -/

theorem Value.isExact_array {items : List Value} :
    (array items).isExact = true ↔ ∀ v ∈ items, v.isExact = true := by
  rw [isExact]
  induction items with
  | nil => simp [isExactAll]
  | cons item items ih => rw [isExactAll, Bool.and_eq_true, ih, List.forall_mem_cons]

theorem Value.isExact_object {fields : List (String × Value)} :
    (object fields).isExact = true ↔ ∀ f ∈ fields, f.2.isExact = true := by
  rw [isExact]
  induction fields with
  | nil => simp [isExactFields]
  | cons f fields ih => rw [isExactFields, Bool.and_eq_true, ih, List.forall_mem_cons]

/-! ## Truth values and words -/

section Plain

variable {A : Arrangement} {h : Nat}

theorem Reader.Rereads.bool : Reader.bool.Rereads h Reader.bool .bool := fun _ _ _ _ _ => rfl

theorem Reader.Carries.bool : Reader.bool.Carries A h Reader.bool := by
  intro v origin origin' a _ _ read
  match v with
  | .bool value => exact read
  | .null | .number (.integer ..) | .number (.double _) | .string _ | .array _ | .object _ => cases read

/-- The equation of the definition itself cannot be had at a number that is not given: comparing its two sides runs the
test of the bounds, down from the greatest number. -/
theorem Value.ofNat_eq : Value.ofNat = fun n : Nat => ((Number.ofInt? n).map Value.number).getD .null := by
  delta Value.ofNat
  funext n
  cases Number.ofInt? (n : Int) with
  | none => rfl
  | some number => rfl

/-- A word is written as a whole number. -/
theorem Codec.exists_word32_write (n : UInt32) :
    ∃ bounds, Codec.word32.write n = .number (.integer n.toNat bounds) := by
  have small := n.toNat_lt
  have bounds : -0x8000000000000000 ≤ (n.toNat : Int) ∧ (n.toNat : Int) < 0x10000000000000000 := by omega
  refine ⟨bounds, ?_⟩
  simp only [Codec.word32, Value.ofNat_eq, ofInt?_eq_some bounds, Option.map_some, Option.getD_some]

/-- Every word is read from the number that it is written as, up to the greatest. -/
theorem Codec.word32_read_write (origin : Origin) (n : UInt32) :
    Codec.word32.read origin (.ofValue (Codec.word32.write n)) = .ok n := by
  obtain ⟨bounds, written⟩ := Codec.exists_word32_write n
  have small := n.toNat_lt
  have inside : 0 ≤ (n.toNat : Int) ∧ (n.toNat : Int) < 0x100000000 := by omega
  have read : Reader.word32 origin (.number (.ok (.integer n.toNat bounds))) = .ok n := by
    simp only [Reader.word32, if_pos inside, Int.toNat_natCast, Nat.toUInt32_eq, UInt32.ofNat_toNat]
  rw [written, Tree.ofValue]
  simpa only [Codec.word32] using read

theorem Reader.Carries.word32 : Reader.word32.Carries A h Reader.word32 := by
  intro v origin origin' a _ _ read
  match v with
  | .number _ => exact read
  | .null | .bool _ | .string _ | .array _ | .object _ => cases read

end Plain

/-! ## Faithful codecs -/

section Faithful

variable {α : Type} {depth : Nat}

/-- **Whether all data of a type that was read comes back from what it is written as**: from the same origin and from
every other, in whatever order the fields of objects are put. What is written nests no more than `depth` levels. -/
structure Codec.Faithful (depth : Nat) (codec : Codec α) : Prop where
  exact (a : α) : (codec.write a).isExact = true
  shallow (a : α) : (Tree.ofValue (codec.write a)).height ≤ depth
  rereads (h : Nat) : codec.read.Rereads h codec.read codec.write
  carries (A : Arrangement) (h : Nat) : codec.read.Carries A h codec.read

namespace Codec.Faithful

variable {codec : Codec α}

theorem string : Codec.string.Faithful depth where
  exact _ := rfl
  shallow _ := Nat.zero_le depth
  rereads _ := .string
  carries _ _ := .string

theorem bool : Codec.bool.Faithful depth where
  exact _ := rfl
  shallow _ := Nat.zero_le depth
  rereads _ := .bool
  carries _ _ := .bool

theorem word32 : Codec.word32.Faithful depth where
  exact n := by
    obtain ⟨bounds, written⟩ := Codec.exists_word32_write n
    rw [written]
    rfl
  shallow n := by
    obtain ⟨bounds, written⟩ := Codec.exists_word32_write n
    rw [written]
    exact Nat.zero_le depth
  rereads _ := fun origin _ n _ _ => Codec.word32_read_write origin n
  carries _ _ := .word32

theorem enumeration {known : List (String × α)} {name : α → String}
    (named : ∀ a, SortedMap.lookupEntry (name a) known = some a) :
    (Codec.enumeration known name).Faithful depth where
  exact _ := rfl
  shallow _ := Nat.zero_le depth
  rereads _ := .enumeration named
  carries _ _ := .enumeration known

theorem list (faithful : codec.Faithful depth) : (Codec.list codec).Faithful (depth + 1) where
  exact as := Value.isExact_array.2 (List.forall_mem_map.2 fun a _ => faithful.exact a)
  shallow as := by
    refine (heightItems_ofItems_lt (Nat.succ_pos depth)).2 (List.forall_mem_map.2 fun a _ => ?_)
    exact Nat.lt_succ_of_le (faithful.shallow a)
  rereads h := (faithful.rereads h).list.mono (Nat.le_succ h)
  carries A h := (faithful.carries A h).list.mono (Nat.le_succ h)

theorem map (faithful : codec.Faithful depth) : (Codec.map codec).Faithful (depth + 1) where
  exact m := Value.isExact_object.2 (List.forall_mem_map.2 fun e _ => faithful.exact e.2)
  shallow m := by
    refine (heightFields_ofFields_lt (Nat.succ_pos depth)).2 (List.forall_mem_map.2 fun e _ => ?_)
    exact Nat.lt_succ_of_le (faithful.shallow e.2)
  rereads h := (faithful.rereads h).map.mono (Nat.le_succ h)
  carries A h := (faithful.carries A h).map.mono (Nat.le_succ h)

/-- **What was read from a value comes back from the text that it is written as**, and from the value that this text
holds. -/
theorem read_again (faithful : codec.Faithful depth) (within : depth ≤ 127) {v : Value} {a : α}
    (read : codec.read.ofValue v = .ok a) :
    codec.read.ofText (codec.write a).compact = .ok a ∧
      Value.ofText (codec.write a).compact = .ok (codec.write a).sorted ∧
        codec.read.ofValue (codec.write a).sorted = .ok a := by
  have again : codec.read .value (.ofValue (codec.write a)) = .ok a := faithful.rereads _ (Nat.lt_succ_self _) read
  have shallow := Nat.le_trans (faithful.shallow a) within
  refine ⟨?_, Value.ofText_compact (faithful.exact a) shallow,
    faithful.carries .ascending _ (Nat.lt_succ_self _) trivial again⟩
  rw [Reader.ofText_compact _ (faithful.exact a), ← Value.arranged_asWritten (codec.write a)]
  refine faithful.carries .asWritten _ (Nat.lt_succ_self _) ?_ again
  rw [Value.arranged_asWritten]
  exact shallow

end Codec.Faithful

/-! ## Faithful records -/

/-- Whether what a field holds comes back from what it is written as, also if it is left out. -/
structure Field.Faithful (depth : Nat) (field : Field α) : Prop where
  exact (a : α) : (field.codec.write a).isExact = true
  shallow (a : α) : (Tree.ofValue (field.codec.write a)).height ≤ depth
  rereads (h : Nat) (origin : Origin) : field.Rereads h origin field
  carries (A : Arrangement) (h : Nat) : field.Carries A h field

namespace Field.Faithful

variable {codec : Codec α}

theorem required (name : String) (faithful : codec.Faithful depth) : (Field.required name codec).Faithful depth where
  exact := faithful.exact
  shallow := faithful.shallow
  rereads h _ := .required name (faithful.rereads h)
  carries A h := .required name (faithful.carries A h)

theorem optional (name : String) (faithful : codec.Faithful depth) (solid : codec.Solid codec) :
    (Field.optional name codec).Faithful depth where
  exact
    | none => rfl
    | some a => faithful.exact a
  shallow
    | none => Nat.zero_le depth
    | some a => faithful.shallow a
  rereads h _ := .optional name (faithful.rereads h) solid
  carries A h := .optional name (faithful.carries A h)

theorem withDefault (name : String) (faithful : codec.Faithful depth) {default : α} {omitted : α → Bool}
    (only : ∀ value, omitted value = true → value = default)
    (own : omitted default = false → ∀ origin, codec.read origin (.ofValue (codec.write default)) = .ok default) :
    (Field.withDefault name codec default omitted).Faithful depth where
  exact := faithful.exact
  shallow := faithful.shallow
  rereads h origin := .withDefault name (faithful.rereads h) only fun kept => own kept origin
  carries A h := .withDefault name (faithful.carries A h) default omitted

end Field.Faithful

/-- A record of which each field is faithful. -/
inductive Record.Faithful (depth : Nat) : {σ τ : Type} → Record σ τ → Prop where
  | nil : Record.Faithful depth .nil
  | cons {α σ τ : Type} {field : Field α} {rest : Record σ τ} :
    field.Faithful depth → rest.Faithful depth → Record.Faithful depth (.cons field rest)

namespace Record.Faithful

variable {σ τ : Type} {record : Record σ τ}

theorem exact (faithful : record.Faithful depth) (values : τ) : ∀ f ∈ record.write values, f.2.isExact = true := by
  induction faithful with
  | nil => exact List.forall_mem_nil _
  | cons front _ ih =>
    obtain ⟨value, values⟩ := values
    rw [Record.write]
    split
    · exact ih values
    · exact List.forall_mem_cons.2 ⟨front.exact value, ih values⟩

theorem shallow (faithful : record.Faithful depth) (values : τ) :
    ∀ f ∈ record.write values, (Tree.ofValue f.2).height ≤ depth := by
  induction faithful with
  | nil => exact List.forall_mem_nil _
  | cons front _ ih =>
    obtain ⟨value, values⟩ := values
    rw [Record.write]
    split
    · exact ih values
    · exact List.forall_mem_cons.2 ⟨front.shallow value, ih values⟩

theorem rereads (faithful : record.Faithful depth) (h : Nat) (origin : Origin) : record.Rereads h origin record := by
  induction faithful with
  | nil => exact .nil
  | cons front _ ih => exact .cons (front.rereads h origin) ih

theorem carries (faithful : record.Faithful depth) (A : Arrangement) (h : Nat) : record.Carries A h record := by
  induction faithful with
  | nil => exact .nil
  | cons front _ ih => exact .cons (front.carries A h) ih

/-- **A record whose fields are faithful is faithful.** -/
theorem codec {β : Type} (faithful : record.Faithful depth) (distinct : record.names.Nodup) (name : String)
    {make : τ → β} {fields : β → τ} (back : ∀ values, fields (make values) = values) :
    (record.codec name make fields).Faithful (depth + 1) where
  exact b := Value.isExact_object.2 (faithful.exact (fields b))
  shallow b := by
    refine (heightFields_ofFields_lt (Nat.succ_pos depth)).2 fun f among => ?_
    exact Nat.lt_succ_of_le (faithful.shallow (fields b) f among)
  rereads h := (Record.Rereads.codec distinct (faithful.rereads h) name back).mono (Nat.le_succ h)
  carries A h := ((faithful.carries A h).codec distinct name make fields).mono (Nat.le_succ h)

end Record.Faithful

end Faithful

end Json

/-! ## Attributes -/

section Attributes

open Json

theorem Constraint.faithful {depth : Nat} : Constraint.codec.Faithful (depth + 1) := by
  have record : constraintRecord.Faithful depth :=
    .cons (.required _ .string) <| .cons (.required _ .string) <|
    .cons (.withDefault _ .word32 (fun _ => nofun) fun _ origin => Codec.word32_read_write origin 0) .nil
  exact record.codec (by decide) _ fun _ => rfl

theorem SplitKind.lookup_name (kind : SplitKind) : SortedMap.lookupEntry kind.name SplitKind.byName = some kind := by
  cases kind <;> rfl

theorem JoinKind.lookup_name (kind : JoinKind) : SortedMap.lookupEntry kind.name JoinKind.byName = some kind := by
  cases kind <;> rfl

namespace BuiltinType

/-- **What each type is told comes back.** Constraints stand three levels deep, nothing else so deep. -/
theorem faithful (type : BuiltinType) : type.codec.Faithful 3 := by
  cases type with
  | start =>
    refine Record.Faithful.codec ?_ (by decide) _ fun _ => rfl
    exact .cons (.optional _ .string Codec.solid_string) .nil
  | finish =>
    refine Record.Faithful.codec ?_ (by decide) _ fun _ => rfl
    exact .cons (.withDefault _ .bool (fun _ => nofun) fun _ _ => rfl) .nil
  | task =>
    refine Record.Faithful.codec ?_ (by decide) _ fun _ => rfl
    exact .cons (.required _ .string) <| .cons (.optional _ .string Codec.solid_string) .nil
  | workItem =>
    refine Record.Faithful.codec ?_ (by decide) _ fun _ => rfl
    exact .cons (.required _ .string) <|
      .cons (.withDefault _ (.map .string) (fun _ => SortedMap.eq_empty_of_isEmpty) nofun) .nil
  | split =>
    refine Record.Faithful.codec ?_ (by decide) _ fun _ => rfl
    exact .cons (.required _ (.enumeration SplitKind.lookup_name)) <|
      .cons (.withDefault _ (.list Constraint.faithful) (fun _ => List.isEmpty_iff.1) nofun) .nil
  | join =>
    refine Record.Faithful.codec ?_ (by decide) _ fun _ => rfl
    exact .cons (.required _ (.enumeration JoinKind.lookup_name)) .nil
  | timer =>
    refine Record.Faithful.codec ?_ (by decide) _ fun _ => rfl
    exact .cons (.required _ .string) .nil
  | milestone =>
    refine Record.Faithful.codec ?_ (by decide) _ fun _ => rfl
    exact .cons (.required _ .string) .nil
  | subProcess =>
    refine Record.Faithful.codec ?_ (by decide) _ fun _ => rfl
    exact .cons (.withDefault _ .bool (fun _ => nofun) fun _ _ => rfl) .nil
  | forEach =>
    refine Record.Faithful.codec ?_ (by decide) _ fun _ => rfl
    exact .cons (.required _ .string) <| .cons (.required _ .string) <|
      .cons (.optional _ .string Codec.solid_string) .nil
  | eventSubProcess =>
    refine Record.Faithful.codec ?_ (by decide) _ fun _ => rfl
    exact .cons (.required _ .string) .nil

/-- Attributes are written as an object. -/
theorem exists_writeAttributes (type : BuiltinType) (a : type.Attributes) :
    ∃ fields, type.writeAttributes a = .object fields := by
  cases type <;> exact ⟨_, rfl⟩

/-- **The attributes of every type come back**: what was read from attributes is read again from the text that it is
written as, and from the attributes that this text holds, and then it is written as the same text. -/
theorem readAttributes_writeAttributes {type : BuiltinType} {given : SortedMap Value} {a : type.Attributes}
    (read : type.readAttributes given = .ok a) :
    type.codec.read.ofText (type.writeAttributes a).compact = .ok a ∧
      ∃ again : SortedMap Value,
        (type.writeAttributes a).sorted = .object again.entries ∧
        Value.ofText (type.writeAttributes a).compact = .ok (.object again.entries) ∧
        ∃ b, type.readAttributes again = .ok b ∧ b = a ∧
          (type.writeAttributes b).compact = (type.writeAttributes a).compact := by
  obtain ⟨fromText, held, fromValue⟩ := type.faithful.read_again (by decide) read
  obtain ⟨fields, written⟩ := type.exists_writeAttributes a
  refine ⟨fromText, ?_⟩
  have object : ∃ again : SortedMap Value, (type.codec.write a).sorted = .object again.entries := by
    rw [← writeAttributes, written, Value.sorted, Value.arranged_object]
    exact ⟨_, rfl⟩
  obtain ⟨again, sorted⟩ := object
  rw [sorted] at held fromValue
  exact ⟨again, sorted, held, a, fromValue, rfl, rfl⟩

/-- Attributes of a split with a kind as an object, constraints as arrays, and fields that are unknown or lack. -/
def looseSplit : SortedMap Value :=
  .ofList [("kind", .object [("or", .null)]), ("color", .null),
    ("constraints", .array [
      .array [.string "ship", .string "total > 10", .ofNat 4294967295],
      .object [("when", .array []), ("expr", .string "say(\"no\")\n"), ("to", .string "wait")],
      .array [.string "wait", .string ""]])]

/-- What the split is told. -/
def looseSplitRead : SplitAttributes :=
  ⟨.or, [⟨"ship", "total > 10", 4294967295⟩, ⟨"wait", "say(\"no\")\n", 0⟩, ⟨"wait", "", 0⟩]⟩

theorem readAttributes_writeAttributes_loose : split.readAttributes looseSplit = .ok looseSplitRead ∧
    ∃ again : SortedMap Value,
      Value.ofText (split.writeAttributes looseSplitRead).compact = .ok (.object again.entries) ∧
        split.readAttributes again = .ok looseSplitRead := by
  have read : split.readAttributes looseSplit = .ok looseSplitRead := by rfl
  obtain ⟨_, again, _, held, b, readAgain, rfl, _⟩ := readAttributes_writeAttributes read
  exact ⟨read, again, held, readAgain⟩

end BuiltinType

end Attributes

end ProcessCompiler
