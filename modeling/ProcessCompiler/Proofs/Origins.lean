import ProcessCompiler.Definition.Format
import ProcessCompiler.Proofs.Arrangement
import ProcessCompiler.Proofs.PrintedText
import ProcessCompiler.Proofs.Records

/-!
# The same data from a text and from a value

A text limits how deep its document nests, an enumeration in it is read in a way of its own, and its objects come in the
order in which they are written. None of this changes what is read from the document of a value: what one origin gives,
every other gives too that has room for the document, also with the fields of its objects put otherwise.

* `Reader.Carries`: what one reader gives, another gives for the arranged value, whatever the two origins.
* `Value.ofText_compact`: the text of a value reads as the value, with the fields of its objects in ascending order.
* `ProcessDefinition.ofText_compact_eq_ok_iff`: the text of a value reads as the same definition as the value.
-/

namespace ProcessCompiler

namespace Json

/-! ## Room for a document -/

/-- **Whether an origin has room for a document of a height**: a text for so many levels, a value for any. -/
def Origin.Admits : Origin → Nat → Prop
  | .text room, height => height ≤ room
  | .value, _ => True

namespace Origin.Admits

variable {origin : Origin} {height lower : Nat}

theorem mono (admits : origin.Admits height) (le : lower ≤ height) : origin.Admits lower := by
  cases origin with
  | text room => exact Nat.le_trans le admits
  | value => trivial

/-- Where there is room for an array or object, there is room inside for what is in it. -/
theorem enter (admits : origin.Admits height) (positive : 0 < height) :
    ∃ inside, origin.enter = .ok inside ∧ ∀ ⦃lower⦄, lower < height → inside.Admits lower := by
  match origin with
  | .text 0 => exact absurd (Nat.lt_of_lt_of_le positive admits) (Nat.lt_irrefl 0)
  | .text (room + 1) =>
    exact ⟨.text room, rfl, fun _ below => Nat.le_of_lt_succ (Nat.lt_of_lt_of_le below admits)⟩
  | .value => exact ⟨.value, rfl, fun _ _ => trivial⟩

end Origin.Admits

/-! ## Any value -/

mutual

/-- **Any value reads as itself, with the fields of its objects in ascending order.** -/
theorem Reader.any_ofValue (v : Value) {origin : Origin} (admits : origin.Admits (Tree.ofValue v).height) :
    Reader.any origin (.ofValue v) = .ok v.sorted := by
  match v with
  | .null | .bool _ | .number _ | .string _ => rfl
  | .array items =>
    obtain ⟨inside, entered, room⟩ := admits.enter (Nat.succ_pos _)
    rw [Tree.ofValue, Reader.any, Except.bind_eq_ok_iff]
    exact ⟨inside, entered, Except.bind_eq_ok_iff.2 ⟨_, Reader.anyItems_ofItems items (room (Nat.lt_succ_self _)), rfl⟩⟩
  | .object fields =>
    obtain ⟨inside, entered, room⟩ := admits.enter (Nat.succ_pos _)
    have read := Reader.anyFields_ofFields fields (room (Nat.lt_succ_self _)) .empty
    rw [Tree.ofValue, Reader.any, Except.bind_eq_ok_iff]
    exact ⟨inside, entered, Except.bind_eq_ok_iff.2 ⟨_, read, rfl⟩⟩

theorem Reader.anyItems_ofItems (items : List Value) {origin : Origin}
    (admits : origin.Admits (Tree.heightItems (Tree.ofItems items))) :
    Reader.anyItems origin (Tree.ofItems items) = .ok (Value.arrangedAll .ascending items) := by
  match items with
  | [] => rfl
  | item :: items =>
    rw [Tree.ofItems, Reader.anyItems, Reader.any_ofValue item (admits.mono (Nat.le_max_left ..)),
      Reader.anyItems_ofItems items (admits.mono (Nat.le_max_right ..))]
    rfl

theorem Reader.anyFields_ofFields (fields : List (String × Value)) {origin : Origin}
    (admits : origin.Admits (Tree.heightFields (Tree.ofFields fields))) (before : SortedMap Value) :
    Reader.anyFields origin before (Tree.ofFields fields) =
      .ok ((Value.arrangedFields .ascending fields).foldl (fun map e => map.insert e.1 e.2) before) := by
  match fields with
  | [] => rfl
  | (key, value) :: fields =>
    rw [Tree.ofFields, Reader.anyFields, Reader.any_ofValue value (admits.mono (Nat.le_max_left ..))]
    exact Reader.anyFields_ofFields fields (admits.mono (Nat.le_max_right ..)) _

end

/-! ## Readers that carry -/

section Carries

variable {α β : Type} {A : Arrangement} {h : Nat}

/-- **What the one reader gives for a value, the other gives for the value arranged**, if that is lower than `h` and the
origin has room for it. -/
def Reader.Carries (A : Arrangement) (h : Nat) (reader reader' : Reader α) : Prop :=
  ∀ ⦃v : Value⦄ ⦃origin origin' : Origin⦄ ⦃a : α⦄, (Tree.ofValue (v.arranged A)).height < h →
    origin'.Admits (Tree.ofValue (v.arranged A)).height → reader origin (.ofValue v) = .ok a →
      reader' origin' (.ofValue (v.arranged A)) = .ok a

namespace Reader.Carries

variable {reader reader' : Reader α}

theorem mono {lower : Nat} (carries : reader.Carries A h reader') (le : lower ≤ h) : reader.Carries A lower reader' :=
  fun _ _ _ _ low admits read => carries (Nat.lt_of_lt_of_le low le) admits read

theorem zero : reader.Carries A 0 reader' := fun _ _ _ _ low => absurd low (Nat.not_lt_zero _)

theorem map_result (carries : reader.Carries A h reader') (f : α → β) :
    Reader.Carries A h (fun origin tree => f <$> reader origin tree) fun origin tree => f <$> reader' origin tree := by
  intro v origin origin' b low admits read
  obtain ⟨a, given, rfl⟩ := map_eq_ok_iff.1 read
  exact map_eq_ok_iff.2 ⟨a, carries low admits given, rfl⟩

theorem string : Reader.string.Carries A h Reader.string := by
  intro v origin origin' a _ _ read
  match v with
  | .string text => exact read
  | .null | .bool _ | .number (.integer ..) | .number (.double _) | .array _ | .object _ => cases read

theorem optional (carries : reader.Carries A h reader') :
    reader.optional.Carries A h reader'.optional := by
  intro v origin origin' a low admits read
  match v with
  | .null => exact read
  | .bool _ | .number _ | .string _ => exact carries.map_result some low admits read
  | .array _ => exact carries.map_result some low admits read
  | .object _ => exact carries.map_result some low admits read

/-- The items of an array are carried one by one. -/
theorem list (carries : reader.Carries A h reader') : reader.list.Carries A (h + 1) reader'.list := by
  intro v origin origin' as low admits read
  match v with
  | .null | .bool _ | .number (.integer ..) | .number (.double _) | .string _ | .object _ => cases read
  | .array items =>
    rw [Value.arranged_array] at low admits ⊢
    obtain ⟨inside, _, each⟩ := list_array_eq_ok_iff.1 read
    obtain ⟨inside', entered, room⟩ := admits.enter (Nat.succ_pos _)
    have lower : ∀ v ∈ items, (Tree.ofValue (v.arranged A)).height <
        (Tree.ofValue (.array (items.map (Value.arranged A)))).height :=
      fun v among => height_lt_of_mem_items (List.mem_map_of_mem among)
    refine list_array_eq_ok_iff.2 ⟨inside', entered, List.forall₂_map_left_iff.2 ?_⟩
    refine ((List.forall₂_and_left _ _).2 ⟨lower, each⟩).imp fun v a ⟨below, read⟩ => ?_
    exact carries (by omega) (room below) read

/-- What is left under each name of an object is carried. -/
theorem map (carries : reader.Carries A h reader') : reader.map.Carries A (h + 1) reader'.map := by
  intro v origin origin' values low admits read
  match v with
  | .null | .bool _ | .number (.integer ..) | .number (.double _) | .string _ | .array _ => cases read
  | .object fields =>
    rw [Value.arranged_object] at low admits ⊢
    obtain ⟨inside, _, all, found⟩ := map_object_eq_ok_iff.1 read
    obtain ⟨inside', entered, room⟩ := admits.enter (Nat.succ_pos _)
    -- What is left under a name reads as it did before it was arranged.
    have carried : ∀ name v a, (name, v.arranged A) ∈ A.arrange (fields.map fun f => (f.1, f.2.arranged A)) →
        reader inside (.ofValue v) = .ok a → reader' inside' (.ofValue (v.arranged A)) = .ok a := by
      intro name v a among read
      have below := height_lt_of_mem_fields among
      exact carries (by omega) (room below) read
    refine map_object_eq_ok_iff.2 ⟨inside', entered, ?_, fun name => ?_⟩
    · rintro ⟨name, w⟩ among
      obtain ⟨v, listed, rfl⟩ := Value.exists_of_mem_arrange A among
      obtain ⟨a, read⟩ := all _ listed
      exact ⟨a, carried name v a among read⟩
    · rw [found name, A.getLast?_occurrences, occurrences_map, List.getLast?_map]
      cases last : (occurrences name fields).getLast? with
      | none => rfl
      | some v =>
        obtain ⟨a, read⟩ := all _ (mem_occurrences.1 (List.mem_of_getLast? last))
        have left : (occurrences name (A.arrange (fields.map fun f => (f.1, f.2.arranged A)))).getLast? =
            some (v.arranged A) := by
          rw [A.getLast?_occurrences, occurrences_map, List.getLast?_map, last]
          rfl
        have among := mem_occurrences.1 (List.mem_of_getLast? left)
        simp [read, carried name v a among read]

theorem any : Reader.Carries A h Reader.any Reader.any := by
  induction h with
  | zero => exact zero
  | succ h ih =>
    intro v origin origin' a low admits read
    match v with
    | .null | .bool _ | .number _ | .string _ => exact read
    | .array items =>
      rw [Tree.ofValue, any_array] at read
      have carried := ih.list.map_result Value.array low admits read
      rw [Value.arranged_array] at carried ⊢
      exact (any_array ..).trans carried
    | .object fields =>
      rw [Tree.ofValue, any_object] at read
      have carried := ih.map.map_result (fun m => Value.object m.entries) low admits read
      rw [Value.arranged_object] at carried ⊢
      exact (any_object ..).trans carried

theorem enumeration (known : List (String × α)) :
    (Reader.enumeration known).Carries A h (Reader.enumeration known) := by
  intro v origin origin' a _ admits read
  obtain ⟨name, spelt, meant⟩ := enumeration_eq_ok_iff.1 read
  refine enumeration_eq_ok_iff.2 ⟨name, ?_, meant⟩
  rcases spelt with rfl | ⟨rfl, _⟩
  · exact .inl rfl
  · rw [Value.arranged_object] at admits ⊢
    obtain ⟨inside, entered, _⟩ := admits.enter (Nat.succ_pos _)
    exact .inr ⟨by rw [List.map_singleton, A.arrange_singleton]; rfl, inside, entered⟩

end Reader.Carries

/-! ## Records -/

/-- Two fields of one name and with one meaning where they are lacking, of which the one carries to the other. -/
structure Field.Carries (A : Arrangement) (h : Nat) (field field' : Field α) : Prop where
  name : field.name = field'.name
  absent : field.absent = field'.absent
  cut : field.cut = field'.cut
  read : field.codec.read.Carries A h field'.codec.read

namespace Field.Carries

variable {codec codec' : Codec α}

theorem required (name : String) (carries : codec.read.Carries A h codec'.read) :
    (Field.required name codec).Carries A h (Field.required name codec') :=
  ⟨rfl, rfl, rfl, carries⟩

theorem optional (name : String) (carries : codec.read.Carries A h codec'.read) :
    (Field.optional name codec).Carries A h (Field.optional name codec') :=
  ⟨rfl, rfl, rfl, carries.optional⟩

theorem withDefault (name : String) (carries : codec.read.Carries A h codec'.read) (value : α) (omitted : α → Bool) :
    (Field.withDefault name codec value omitted).Carries A h (Field.withDefault name codec' value omitted) :=
  ⟨rfl, rfl, rfl, carries⟩

/-- What fits the one field fits the other when it is arranged. -/
theorem fits {field field' : Field α} (carries : field.Carries A h field') {inside inside' : Origin} {vs : List Value}
    {value : α} (low : ∀ v ∈ vs, (Tree.ofValue (v.arranged A)).height < h)
    (room : ∀ v ∈ vs, inside'.Admits (Tree.ofValue (v.arranged A)).height) (fits : field.Fits inside vs value) :
    field'.Fits inside' (vs.map (Value.arranged A)) value := by
  match vs with
  | [] => exact carries.absent.symm.trans fits
  | [v] => exact carries.read (low v (List.mem_singleton_self v)) (room v (List.mem_singleton_self v)) fits
  | _ :: _ :: _ => exact absurd fits id

end Field.Carries

/-- Two records of which each field of the one carries to that of the other. -/
inductive Record.Carries (A : Arrangement) (h : Nat) : {σ τ : Type} → Record σ τ → Record σ τ → Prop where
  | nil : Record.Carries A h .nil .nil
  | cons {α σ τ : Type} {field field' : Field α} {rest rest' : Record σ τ} :
    field.Carries A h field' → rest.Carries A h rest' → Record.Carries A h (.cons field rest) (.cons field' rest')

namespace Record.Carries

variable {σ τ : Type} {record record' : Record σ τ} {inside inside' : Origin}

theorem names (carries : record.Carries A h record') : record.names = record'.names := by
  induction carries with
  | nil => rfl
  | cons field _ ih => rw [Record.names, Record.names, field.name, ih]

/-- **An object that fits a record still does so when it is arranged.** -/
theorem fits (carries : record.Carries A h record') {fields : List (String × Value)} {values : τ}
    (low : (Tree.ofValue ((Value.object fields).arranged A)).height ≤ h)
    (room : ∀ ⦃lower⦄, lower < (Tree.ofValue ((Value.object fields).arranged A)).height → inside'.Admits lower)
    (fits : record.Fits inside fields values) :
    record'.Fits inside' (A.arrange (fields.map fun f => (f.1, f.2.arranged A))) values := by
  rw [Value.arranged_object] at low room
  induction carries with
  | nil => trivial
  | @cons _ _ _ field _ _ _ carries _ ih =>
    obtain ⟨value, values⟩ := values
    obtain ⟨front, behind⟩ := fits
    have once : (occurrences field.name (fields.map fun f => (f.1, f.2.arranged A))).length ≤ 1 := by
      rw [occurrences_map, List.length_map]
      exact front.length_le_one
    have left : occurrences field.name (A.arrange (fields.map fun f => (f.1, f.2.arranged A))) =
        (occurrences field.name fields).map (Value.arranged A) := by
      rw [A.occurrences_arrange once, occurrences_map]
    have lower (v : Value) (among : v ∈ occurrences field.name fields) :=
      height_lt_of_mem_fields (mem_occurrences.1 (left ▸ List.mem_map_of_mem among))
    refine ⟨?_, ih behind⟩
    rw [← carries.name, left]
    exact carries.fits (fun v among => Nat.lt_of_lt_of_le (lower v among) low)
      (fun v among => room (lower v among)) front

/-- **An array that fits a record still does so when it is arranged.** -/
theorem fitsItems (carries : record.Carries A h record') {items : List Value} {values : τ}
    (low : ∀ v ∈ items, (Tree.ofValue (v.arranged A)).height < h)
    (room : ∀ v ∈ items, inside'.Admits (Tree.ofValue (v.arranged A)).height)
    (fits : record.FitsItems inside items values) :
    record'.FitsItems inside' (items.map (Value.arranged A)) values := by
  induction carries generalizing items with
  | nil =>
    obtain rfl : items = [] := fits
    rfl
  | cons field rest ih =>
    obtain ⟨value, values⟩ := values
    cases items with
    | nil => exact ⟨field.cut.symm.trans fits.1, ih (List.forall_mem_nil _) (List.forall_mem_nil _) fits.2⟩
    | cons v items =>
      obtain ⟨low, lows⟩ := List.forall_mem_cons.1 low
      obtain ⟨room, rooms⟩ := List.forall_mem_cons.1 room
      exact ⟨field.read low room fits.1, ih lows rooms fits.2⟩

/-- **Records of which each field is carried are carried.** -/
theorem read (carries : record.Carries A h record') (distinct : record.names.Nodup) (name : String) :
    (record.read name).Carries A (h + 1) (record'.read name) := by
  intro v origin origin' values low admits read
  match v with
  | .null | .bool _ | .number (.integer ..) | .number (.double _) | .string _ => cases read
  | .array items =>
    obtain ⟨inside, _, fits⟩ := read_array_eq_ok_iff.1 read
    rw [Value.arranged_array] at low admits ⊢
    obtain ⟨inside', entered, room⟩ := admits.enter (Nat.succ_pos _)
    have lower (v : Value) (among : v ∈ items) :=
      height_lt_of_mem_items (List.mem_map_of_mem (f := Value.arranged A) among)
    refine read_array_eq_ok_iff.2 ⟨inside', entered, carries.fitsItems (fun v among => ?_) (fun v among => ?_) fits⟩
    · have := lower v among
      omega
    · exact room (lower v among)
  | .object fields =>
    obtain ⟨inside, _, fits⟩ := (read_object_eq_ok_iff distinct).1 read
    rw [Value.arranged_object] at low admits ⊢
    obtain ⟨inside', entered, room⟩ := admits.enter (Nat.succ_pos _)
    rw [← Value.arranged_object] at low room
    exact (read_object_eq_ok_iff (carries.names ▸ distinct)).2
      ⟨inside', entered, carries.fits (Nat.le_of_lt_succ low) room fits⟩

theorem codec {β : Type} (carries : record.Carries A h record') (distinct : record.names.Nodup) (name : String)
    (make : τ → β) (fields : β → τ) : (record.codec name make fields).read.Carries A (h + 1)
      (record'.codec name make fields).read :=
  (carries.read distinct name).map_result make

end Record.Carries

end Carries

end Json

/-! ## Definitions -/

section Definitions

open Json

variable {A : Arrangement} {h : Nat}

theorem Variable.carries : Variable.codec.read.Carries A h Variable.codec.read := by
  have record : variableRecord.Carries A h variableRecord :=
    .cons (.required _ (.enumeration _)) <| .cons (.optional _ .any) <| .cons (.optional _ .string) .nil
  exact (record.codec (by decide) _ _ _).mono (Nat.le_succ h)

theorem Connection.carries : Connection.codec.read.Carries A h Connection.codec.read := by
  have record : connectionRecord.Carries A h connectionRecord :=
    .cons (.required _ .string) <| .cons (.required _ .string) <| .cons (.optional _ .string) .nil
  exact (record.codec (by decide) _ _ _).mono (Nat.le_succ h)

theorem nodup_names_nodeRecord {γ : Type} (children : Codec γ) : (nodeRecord children).names.Nodup := by
  change ["id", "type", "name", "attributes", "variables", "nodes", "connections"].Nodup
  decide

/-- A node that was read with some fuel is read with all the fuel that its height takes. -/
theorem NodeDefinition.carries_readWithin (n : Nat) :
    (NodeDefinition.readWithin n).Carries A h (NodeDefinition.readWithin h) := by
  induction h generalizing n with
  | zero => exact .zero
  | succ h ih =>
    cases n with
    | zero =>
      intro v origin origin' node _ _ read
      cases read
    | succ n =>
      have record : (nodeRecord ⟨Reader.list (readWithin n), fun _ => .null⟩).Carries A h
          (nodeRecord ⟨Reader.list (readWithin h), fun _ => .null⟩) :=
        .cons (.required _ .string) <| .cons (.required _ .string) <| .cons (.optional _ .string) <|
        .cons (.withDefault _ (Reader.Carries.any.map.mono (Nat.le_succ h)) _ _) <|
        .cons (.optional _ (Variable.carries.map.mono (Nat.le_succ h))) <|
        .cons (.optional _ ((ih n).list.mono (Nat.le_succ h))) <|
        .cons (.withDefault _ (Connection.carries.list.mono (Nat.le_succ h)) _ _) .nil
      exact (record.read (nodup_names_nodeRecord _) _).map_result _

theorem NodeDefinition.carries : NodeDefinition.read.Carries A h NodeDefinition.read := by
  intro v origin origin' node _ admits read
  exact carries_readWithin _ (Nat.lt_succ_self _) admits read

theorem ProcessDefinition.carries : ProcessDefinition.codec.read.Carries A h ProcessDefinition.codec.read := by
  have record : processRecord.Carries A h processRecord :=
    .cons (.required _ .string) <| .cons (.optional _ .string) <| .cons (.optional _ .string) <|
    .cons (.withDefault _ (Variable.carries.map.mono (Nat.le_succ h)) _ _) <|
    .cons (.withDefault _ (NodeDefinition.carries.list.mono (Nat.le_succ h)) _ _) <|
    .cons (.withDefault _ (Connection.carries.list.mono (Nat.le_succ h)) _ _) .nil
  exact (record.codec (by decide) _ _ _).mono (Nat.le_succ h)

/-! ## Texts and values -/

/-- The compact text of a value is read as the value, within the room that a text has. -/
theorem Json.Reader.ofText_compact {α : Type} (reader : Reader α) {v : Value} (exact : v.isExact = true) :
    reader.ofText v.compact = reader .wholeText (.ofValue v) := by
  rw [Reader.ofText, Tree.ofText_compact v exact]
  exact bind_pure (reader .wholeText (.ofValue v))

/-- **The compact text of a value reads as the value**, with the fields of its objects in ascending order. -/
theorem Json.Value.ofText_compact {v : Value} (exact : v.isExact = true) (shallow : (Tree.ofValue v).height ≤ 127) :
    Value.ofText v.compact = .ok v.sorted := by
  rw [Value.ofText, Reader.ofText_compact _ exact]
  exact Reader.any_ofValue v shallow

/-- A definition that one origin gives of a value is given by every origin with room for the value. -/
theorem ProcessDefinition.read_of_read {v : Value} {origin origin' : Origin} {d : ProcessDefinition}
    (admits : origin'.Admits (Tree.ofValue v).height)
    (read : ProcessDefinition.codec.read origin (.ofValue v) = .ok d) :
    ProcessDefinition.codec.read origin' (.ofValue v) = .ok d := by
  rw [← Value.arranged_asWritten v] at admits ⊢
  exact ProcessDefinition.carries (Nat.lt_succ_self _) admits read

/-- **The text of a value without doubles reads as a definition exactly if the value does, and as the same**, if the
value nests no deeper than a text may. -/
theorem ProcessDefinition.ofText_compact_eq_ok_iff {v : Value} (exact : v.isExact = true)
    (shallow : (Tree.ofValue v).height ≤ 127) {d : ProcessDefinition} :
    ProcessDefinition.ofText v.compact = .ok d ↔ ProcessDefinition.ofValue v = .ok d := by
  rw [ProcessDefinition.ofText, Reader.ofText_compact _ exact, ProcessDefinition.ofValue, Reader.ofValue]
  exact ⟨ProcessDefinition.read_of_read trivial, ProcessDefinition.read_of_read shallow⟩

/-- A definition in which records come as arrays, a type as an object, and some fields are null or unknown. -/
def looseValue : Value :=
  .object [
    ("version", .null),
    ("nodes", .array [
      .array [.string "open", .string "start", .null, .object [], .null, .null, .array []],
      .object [("type", .string "sub"), ("id", .string "box"), ("nodes", .array []),
        ("color", .array [.string "red"])]]),
    ("variables", .object [
      ("total", .object [("type", .object [("number", .null)]), ("value", .number (.integer 3 (by decide)))]),
      ("paid", .array [.string "boolean", .null, .string "whether it is"])]),
    ("id", .string "orders")]

/-- What the value reads as. -/
theorem exists_ofValue_looseValue : ∃ d, ProcessDefinition.ofValue looseValue = .ok d ∧
    d.declarations.keys = ["paid", "total"] ∧ d.nodes.map (·.id) = ["open", "box"] := by
  have read : (ProcessDefinition.ofValue looseValue).toOption.map (fun d => (d.declarations.keys, d.nodes.map (·.id))) =
      some (["paid", "total"], ["open", "box"]) := by decide +kernel
  obtain ⟨d, given, same⟩ := Option.map_eq_some_iff.1 read
  exact ⟨d, Except.toOption_eq_some_iff.1 given, (Prod.ext_iff.1 same).1, (Prod.ext_iff.1 same).2⟩

theorem ofText_compact_eq_ok_iff_loose : ∃ d, ProcessDefinition.ofText looseValue.compact = .ok d ∧
    ProcessDefinition.ofValue looseValue = .ok d ∧ d.declarations.keys = ["paid", "total"] ∧
      d.nodes.map (·.id) = ["open", "box"] := by
  obtain ⟨d, read, keys, ids⟩ := exists_ofValue_looseValue
  have exact : looseValue.isExact = true := by decide +kernel
  have shallow : (Tree.ofValue looseValue).height ≤ 127 := by decide +kernel
  exact ⟨d, (ProcessDefinition.ofText_compact_eq_ok_iff exact shallow).2 read, read, keys, ids⟩

end Definitions

end ProcessCompiler
