import Mathlib.Data.List.Forall2
import ProcessCompiler.Json.Document
import ProcessCompiler.Proofs.Construction

/-!
# What lists, maps and names are read from

The reader of a map puts in one binding after the other, and an enumeration is read from a text in one way and from a
value in another. Here the outcome is said without the run: a map has under each name what the last occurrence of the
name reads as, and a name comes as a string or alone in an object.

* `occurrences`: what stands under a name among fields.
* `height_lt_of_mem_items`, `height_lt_of_mem_fields`: what is in a document is lower.
* `Reader.list_array_eq_ok_iff`, `Reader.map_object_eq_ok_iff`: when a value reads as a list or a map, and as which.
* `Reader.enumeration_eq_ok_iff`: when a value reads as one of the known names.
-/

namespace ProcessCompiler.Json

/-! ## Values as documents -/

mutual

/-- Nothing stops one that passes over a value. -/
theorem Tree.skip_ofValue (v : Value) : (Tree.ofValue v).skip = .ok () := by
  match v with
  | .null | .bool _ | .number _ | .string _ => rfl
  | .array items =>
    rw [Tree.ofValue, Tree.skip, Tree.skipItems_ofItems items]
    rfl
  | .object fields =>
    rw [Tree.ofValue, Tree.skip, Tree.skipFields_ofFields fields]
    rfl

theorem Tree.skipItems_ofItems (items : List Value) : Tree.skipItems (Tree.ofItems items) = .ok () := by
  match items with
  | [] => rfl
  | item :: items =>
    rw [Tree.ofItems, Tree.skipItems, Tree.skip_ofValue item]
    exact Tree.skipItems_ofItems items

theorem Tree.skipFields_ofFields (fields : List (String × Value)) :
    Tree.skipFields (Tree.ofFields fields) = .ok () := by
  match fields with
  | [] => rfl
  | (key, value) :: fields =>
    rw [Tree.ofFields, Tree.skipFields, Tree.skip_ofValue value]
    exact Tree.skipFields_ofFields fields

end

theorem Tree.ofItems_eq_map (items : List Value) : Tree.ofItems items = items.map Tree.ofValue := by
  induction items with
  | nil => rfl
  | cons item items ih => rw [Tree.ofItems, ih, List.map_cons]

/-! ## Documents inside others -/

section Heights

variable {v : Value} {n : Nat}

theorem heightItems_ofItems_lt {items : List Value} (positive : 0 < n) :
    Tree.heightItems (Tree.ofItems items) < n ↔ ∀ v ∈ items, (Tree.ofValue v).height < n := by
  induction items with
  | nil => simpa [Tree.ofItems, Tree.heightItems] using positive
  | cons item items ih => rw [Tree.ofItems, Tree.heightItems, Nat.max_lt, ih, List.forall_mem_cons]

theorem heightFields_ofFields_lt {fields : List (String × Value)} (positive : 0 < n) :
    Tree.heightFields (Tree.ofFields fields) < n ↔ ∀ f ∈ fields, (Tree.ofValue f.2).height < n := by
  induction fields with
  | nil => simpa [Tree.ofFields, Tree.heightFields] using positive
  | cons field fields ih => rw [Tree.ofFields, Tree.heightFields, Nat.max_lt, ih, List.forall_mem_cons]

/-- An item is lower than its array. -/
theorem height_lt_of_mem_items {items : List Value} (among : v ∈ items) :
    (Tree.ofValue v).height < (Tree.ofValue (.array items)).height := by
  have positive : 0 < (Tree.ofValue (.array items)).height := Nat.succ_pos _
  exact (heightItems_ofItems_lt positive).1 (Nat.lt_succ_self _) v among

/-- The value of a field is lower than its object. -/
theorem height_lt_of_mem_fields {fields : List (String × Value)} {name : String} (among : (name, v) ∈ fields) :
    (Tree.ofValue v).height < (Tree.ofValue (.object fields)).height := by
  have positive : 0 < (Tree.ofValue (.object fields)).height := Nat.succ_pos _
  exact (heightFields_ofFields_lt positive).1 (Nat.lt_succ_self _) _ among

end Heights

/-! ## Occurrences of a name -/

section Occurrences

variable {α : Type}

/-- What stands under a name among fields, in order. -/
def occurrences (name : String) (fields : List (String × α)) : List α :=
  fields.filterMap fun f => if f.1 = name then some f.2 else none

theorem occurrences_cons_self (name : String) (v : α) (fields : List (String × α)) :
    occurrences name ((name, v) :: fields) = v :: occurrences name fields := by
  simp [occurrences]

theorem occurrences_cons_of_ne {name key : String} (other : key ≠ name) (v : α) (fields : List (String × α)) :
    occurrences name ((key, v) :: fields) = occurrences name fields := by
  simp [occurrences, other]

/-- Fields of another name make no difference. -/
theorem occurrences_filter_ne {name other : String} (differ : name ≠ other) (fields : List (String × α)) :
    occurrences name (fields.filter fun f => f.1 ≠ other) = occurrences name fields := by
  rw [occurrences, occurrences, List.filterMap_filter]
  congr 1
  funext f
  by_cases same : f.1 = name
  · simp [same, differ]
  · simp [same]

theorem occurrences_map {β : Type} (name : String) (g : α → β) (fields : List (String × α)) :
    occurrences name (fields.map fun f => (f.1, g f.2)) = (occurrences name fields).map g := by
  rw [occurrences, occurrences, List.filterMap_map, List.map_filterMap]
  congr 1
  funext f
  by_cases same : f.1 = name
  · simp [same]
  · simp [same]

theorem mem_occurrences {name : String} {v : α} {fields : List (String × α)} :
    v ∈ occurrences name fields ↔ (name, v) ∈ fields := by
  simp only [occurrences, List.mem_filterMap, Option.ite_none_right_eq_some, Option.some.injEq]
  constructor
  · rintro ⟨⟨key, w⟩, among, rfl, rfl⟩
    exact among
  · exact fun among => ⟨_, among, rfl, rfl⟩

/-- A map has at most one binding of a name. -/
theorem occurrences_entries (name : String) (map : SortedMap α) :
    occurrences name map.entries = (map.find? name).toList := by
  have once (entries : List (String × α)) (ascending : entries.Pairwise (fun a b => a.1 < b.1)) :
      occurrences name entries = (SortedMap.lookupEntry name entries).toList := by
    induction entries with
    | nil => rfl
    | cons e entries ih =>
      obtain ⟨key, v⟩ := e
      obtain ⟨first, others⟩ := List.pairwise_cons.1 ascending
      by_cases same : key = name
      · subst same
        rw [occurrences_cons_self, ih others, SortedMap.lookupEntry_eq_none first]
        simp [SortedMap.lookupEntry]
      · rw [occurrences_cons_of_ne same, ih others, SortedMap.lookupEntry, if_neg (Ne.symm same)]
  exact once map.entries map.ascending

end Occurrences

/-! ## Lists -/

theorem map_eq_ok_iff {ε α β : Type} {f : α → β} {x : Except ε α} {b : β} :
    f <$> x = .ok b ↔ ∃ a, x = .ok a ∧ f a = b := by
  cases x <;> simp [Functor.map, Except.map]

theorem mapM_eq_ok_iff {ε α β : Type} {f : α → Except ε β} {as : List α} {bs : List β} :
    as.mapM f = .ok bs ↔ List.Forall₂ (fun a b => f a = .ok b) as bs := by
  induction as generalizing bs with
  | nil => simp [pure, Except.pure, eq_comm]
  | cons a as ih =>
    simp only [List.mapM_cons, Except.bind_eq_ok_iff, List.forall₂_cons_left_iff, ih]
    constructor
    · rintro ⟨b, first, rest, others, done⟩
      cases done
      exact ⟨b, rest, first, others, rfl⟩
    · rintro ⟨b, rest, first, others, rfl⟩
      exact ⟨b, first, rest, others, rfl⟩

theorem forall_of_mapM {ε α β : Type} {f : α → Except ε β} {as : List α} {bs : List β} (run : as.mapM f = .ok bs) :
    ∀ b ∈ bs, ∃ a, f a = .ok b := by
  induction mapM_eq_ok_iff.1 run with
  | nil => exact nofun
  | cons first others ih => exact List.forall_mem_cons.2 ⟨⟨_, first⟩, ih (mapM_eq_ok_iff.2 others)⟩

theorem Tree.ofValue_eq_null_iff {v : Value} : Tree.ofValue v = .null ↔ v = .null := by
  cases v <;> simp [Tree.ofValue]

namespace Reader

variable {α : Type} {reader : Reader α} {origin : Origin}

/-- **An array reads as the list of what its items read as.** -/
theorem list_array_eq_ok_iff {items : List Value} {as : List α} :
    Reader.list reader origin (.ofValue (.array items)) = .ok as ↔
      ∃ inside, origin.enter = .ok inside ∧
        List.Forall₂ (fun v a => reader inside (.ofValue v) = .ok a) items as := by
  rw [Tree.ofValue, Reader.list, Except.bind_eq_ok_iff]
  refine exists_congr fun inside => and_congr_right fun _ => ?_
  rw [Except.bind_eq_ok_iff, Tree.ofItems_eq_map]
  simp only [mapM_eq_ok_iff, List.forall₂_map_left_iff]
  constructor
  · rintro ⟨values, read, done⟩
    cases done
    exact read
  · exact fun read => ⟨as, read, rfl⟩

/-- The members of a list that was read come each from a document one level deeper. -/
theorem exists_of_mem_list {tree : Tree} {as : List α} (read : Reader.list reader origin tree = .ok as) :
    ∃ inside, origin.enter = .ok inside ∧ ∀ a ∈ as, ∃ item, reader inside item = .ok a := by
  unfold Reader.list at read
  split at read
  · obtain ⟨inside, entered, read⟩ := Except.bind_eq_ok_iff.1 read
    obtain ⟨values, all, read⟩ := Except.bind_eq_ok_iff.1 read
    obtain ⟨_, _, read⟩ := Except.bind_eq_ok_iff.1 read
    cases read
    exact ⟨inside, entered, forall_of_mapM all⟩
  · obtain ⟨_, _, read⟩ := Except.bind_eq_ok_iff.1 read
    cases read

/-! ## Maps -/

/-- Reading further fields into a map puts under a name what its last occurrence reads as. -/
theorem find?_mapFields {fields : List (String × Value)} {before after : SortedMap α}
    (read : mapFields reader origin before (Tree.ofFields fields) = .ok after) :
    (∀ f ∈ fields, ∃ a, reader origin (.ofValue f.2) = .ok a) ∧
      ∀ name, after.find? name =
        ((occurrences name fields).getLast?.bind fun v => (reader origin (.ofValue v)).toOption).or
          (before.find? name) := by
  induction fields generalizing before with
  | nil =>
    cases read
    exact ⟨nofun, fun name => rfl⟩
  | cons f fields ih =>
    obtain ⟨key, v⟩ := f
    rw [Tree.ofFields, mapFields] at read
    obtain ⟨_, given, read⟩ := Except.bind_eq_ok_iff.1 read
    cases given
    obtain ⟨a, first, read⟩ := Except.bind_eq_ok_iff.1 read
    obtain ⟨all, found⟩ := ih read
    refine ⟨List.forall_mem_cons.2 ⟨⟨a, first⟩, all⟩, fun name => ?_⟩
    rw [found name, SortedMap.find?_insert]
    by_cases same : key = name
    · subst same
      rw [if_pos rfl, occurrences_cons_self, List.getLast?_cons]
      cases last : (occurrences key fields).getLast? with
      | none => simp [first, Except.toOption]
      | some w =>
        obtain ⟨b, later⟩ := all (key, w) (mem_occurrences.1 (List.mem_of_getLast? last))
        simp [later, Except.toOption]
    · rw [if_neg (Ne.symm same), occurrences_cons_of_ne same]

/-- Fields that can be read can be read into a map. -/
theorem exists_mapFields {fields : List (String × Value)}
    (all : ∀ f ∈ fields, ∃ a, reader origin (.ofValue f.2) = .ok a) (before : SortedMap α) :
    ∃ after, mapFields reader origin before (Tree.ofFields fields) = .ok after := by
  induction fields generalizing before with
  | nil => exact ⟨before, rfl⟩
  | cons f fields ih =>
    obtain ⟨⟨a, first⟩, others⟩ := List.forall_mem_cons.1 all
    obtain ⟨after, read⟩ := ih others (before.insert f.1 a)
    refine ⟨after, ?_⟩
    rw [Tree.ofFields, mapFields]
    exact Except.bind_eq_ok_iff.2 ⟨_, rfl, Except.bind_eq_ok_iff.2 ⟨a, first, read⟩⟩

/-- **An object reads as the map that has under each name what its last occurrence reads as**, if all fields can be
read. -/
theorem map_object_eq_ok_iff {fields : List (String × Value)} {map : SortedMap α} :
    Reader.map reader origin (.ofValue (.object fields)) = .ok map ↔
      ∃ inside, origin.enter = .ok inside ∧ (∀ f ∈ fields, ∃ a, reader inside (.ofValue f.2) = .ok a) ∧
        ∀ name, map.find? name =
          (occurrences name fields).getLast?.bind fun v => (reader inside (.ofValue v)).toOption := by
  rw [Tree.ofValue, Reader.map, Except.bind_eq_ok_iff]
  refine exists_congr fun inside => and_congr_right fun _ => ?_
  rw [Except.bind_eq_ok_iff]
  constructor
  · rintro ⟨values, read, done⟩
    cases done
    obtain ⟨all, found⟩ := find?_mapFields read
    exact ⟨all, fun name => (found name).trans (Option.or_none ..)⟩
  · rintro ⟨all, found⟩
    obtain ⟨after, read⟩ := exists_mapFields all .empty
    obtain ⟨_, found'⟩ := find?_mapFields read
    have same : after = map := SortedMap.eq_of_find?_eq fun name => by
      rw [found, found', SortedMap.find?_empty, Option.or_none]
    exact ⟨after, read, by rw [same]; rfl⟩

/-- What a map that was read has come each from a document one level deeper. -/
theorem exists_of_find?_map {tree : Tree} {map : SortedMap α} (read : Reader.map reader origin tree = .ok map) :
    ∃ inside, origin.enter = .ok inside ∧
      ∀ name a, map.find? name = some a → ∃ item, reader inside item = .ok a := by
  have kept (inside : Origin) (fields : List (Except Fault String × Tree)) (before after : SortedMap α)
      (old : ∀ name a, before.find? name = some a → ∃ item, reader inside item = .ok a)
      (run : mapFields reader inside before fields = .ok after) :
      ∀ name a, after.find? name = some a → ∃ item, reader inside item = .ok a := by
    induction fields generalizing before with
    | nil =>
      cases run
      exact old
    | cons f fields ih =>
      rw [mapFields] at run
      obtain ⟨key, _, run⟩ := Except.bind_eq_ok_iff.1 run
      obtain ⟨b, first, run⟩ := Except.bind_eq_ok_iff.1 run
      refine ih _ (fun name a found => ?_) run
      rw [SortedMap.find?_insert] at found
      split at found
      · obtain rfl := Option.some.inj found
        exact ⟨_, first⟩
      · exact old name a found
  unfold Reader.map at read
  split at read
  · obtain ⟨inside, entered, read⟩ := Except.bind_eq_ok_iff.1 read
    obtain ⟨values, run, read⟩ := Except.bind_eq_ok_iff.1 read
    obtain ⟨_, _, read⟩ := Except.bind_eq_ok_iff.1 read
    cases read
    exact ⟨inside, entered, kept inside _ .empty _ nofun run⟩
  · obtain ⟨_, _, read⟩ := Except.bind_eq_ok_iff.1 read
    cases read
  · obtain ⟨_, _, read⟩ := Except.bind_eq_ok_iff.1 read
    cases read

/-! ## Any value -/

theorem anyItems_eq_mapM (origin : Origin) (items : List Tree) : anyItems origin items = items.mapM (any origin) := by
  induction items with
  | nil => rfl
  | cons item items ih => rw [anyItems, ih, List.mapM_cons]

theorem anyFields_eq_mapFields (origin : Origin) (before : SortedMap Value)
    (fields : List (Except Fault String × Tree)) :
    anyFields origin before fields = mapFields any origin before fields := by
  induction fields generalizing before with
  | nil => rfl
  | cons f fields ih =>
    rw [anyFields, mapFields]
    simp only [ih]

/-- An array that is read as any value is read as a list. -/
theorem any_array (origin : Origin) (items : List Tree) (ending : Ending) :
    any origin (.array items ending) = .array <$> Reader.list any origin (.array items ending) := by
  simp only [any, Reader.list, anyItems_eq_mapM, map_bind, map_pure]

/-- An object that is read as any value is read as a map. -/
theorem any_object (origin : Origin) (fields : List (Except Fault String × Tree)) (ending : Ending) :
    any origin (.object fields ending) =
      (fun map => .object map.entries) <$> Reader.map any origin (.object fields ending) := by
  simp only [any, Reader.map, anyFields_eq_mapFields, map_bind, map_pure]

/-! ## Texts -/

theorem string_eq_ok_iff {v : Value} {text : String} :
    Reader.string origin (.ofValue v) = .ok text ↔ v = .string text := by
  cases v with
  | string own => simp [Reader.string, Tree.ofValue]
  | number n => cases n <;> simp [Reader.string, Tree.ofValue, Tree.mismatch, Tree.found, faulty, bind, Except.bind]
  | _ => simp [Reader.string, Tree.ofValue, Tree.mismatch, Tree.found, faulty, bind, Except.bind]

theorem optional_of_ne_null {reader : Reader α} {tree : Tree} (there : tree ≠ .null) :
    reader.optional origin tree = some <$> reader origin tree := by
  unfold Reader.optional
  split
  · exact absurd rfl there
  · rfl

/-- An optional text is read exactly from what is written for it. -/
theorem optional_string_eq_ok_iff {v : Value} {read : Option String} :
    Reader.string.optional origin (.ofValue v) = .ok read ↔ v = .ofOption read := by
  by_cases null : v = .null
  · subst null
    cases read <;> simp [Reader.optional, Tree.ofValue, Value.ofOption]
  · rw [optional_of_ne_null (mt Tree.ofValue_eq_null_iff.1 null), map_eq_ok_iff]
    constructor
    · rintro ⟨text, told, rfl⟩
      exact string_eq_ok_iff.1 told
    · rintro rfl
      cases read with
      | none => exact absurd rfl null
      | some text => exact ⟨text, string_eq_ok_iff.2 rfl, rfl⟩

/-! ## Enumerations -/

theorem variant_eq_ok_iff {known : List (String × α)} {name : String} {a : α} :
    variant known name = .ok a ↔ SortedMap.lookupEntry name known = some a := by
  rw [variant]
  cases SortedMap.lookupEntry name known <;> simp

theorem unit_eq_ok_iff {origin : Origin} {v : Value} : Reader.unit origin (.ofValue v) = .ok () ↔ v = .null := by
  match v with
  | .null => simp [Reader.unit, Tree.ofValue]
  | .bool _ | .number (.integer ..) | .number (.double _) | .string _ | .array _ | .object _ =>
    simp [Reader.unit, Tree.ofValue, Tree.mismatch, Tree.found, faulty, bind, Except.bind]

/-- Only a name that stands alone in an object, with null, is read as that of a value. -/
theorem enumeration_object_eq_ok_iff {known : List (String × α)} {origin : Origin} {fields : List (String × Value)}
    {a : α} : enumeration known origin (.ofValue (.object fields)) = .ok a ↔
      ∃ name, fields = [(name, .null)] ∧ (∃ inside, origin.enter = .ok inside) ∧
        SortedMap.lookupEntry name known = some a := by
  match fields with
  | [] =>
    cases origin with
    | text room =>
      simp [enumeration, enumerationText, Tree.ofValue, Tree.ofFields, Except.bind_eq_ok_iff]
    | value => simp [enumeration, enumerationValue, Tree.ofValue, Tree.ofFields]
  | [(name, payload)] =>
    cases origin with
    | text room =>
      simp only [enumeration, enumerationText, Tree.ofValue, Tree.ofFields, Except.bind_eq_ok_iff, variant_eq_ok_iff]
      constructor
      · rintro ⟨inside, entered, _, key, b, meant, _, empty, done⟩
        cases key
        cases done
        cases unit_eq_ok_iff.1 empty
        exact ⟨name, rfl, ⟨inside, entered⟩, meant⟩
      · rintro ⟨_, same, ⟨inside, entered⟩, meant⟩
        cases same
        exact ⟨inside, entered, _, rfl, a, meant, (), rfl, rfl⟩
    | value =>
      simp only [enumeration, enumerationValue, Tree.ofValue, Tree.ofFields, Except.bind_eq_ok_iff, variant_eq_ok_iff]
      constructor
      · rintro ⟨b, meant, _, empty, done⟩
        cases done
        cases unit_eq_ok_iff.1 empty
        exact ⟨name, rfl, ⟨.value, rfl⟩, meant⟩
      · rintro ⟨_, same, _, meant⟩
        cases same
        exact ⟨a, meant, (), rfl, rfl⟩
  | (name, payload) :: field :: fields =>
    cases origin with
    | text room =>
      simp [enumeration, enumerationText, Tree.ofValue, Tree.ofFields, Except.bind_eq_ok_iff]
    | value => simp [enumeration, enumerationValue, Tree.ofValue, Tree.ofFields]

/-- A name among the known ones comes as a string, or as the one name in an object, with null. -/
theorem enumeration_eq_ok_iff {known : List (String × α)} {origin : Origin} {v : Value} {a : α} :
    enumeration known origin (.ofValue v) = .ok a ↔
      ∃ name, (v = .string name ∨ v = .object [(name, .null)] ∧ ∃ inside, origin.enter = .ok inside) ∧
        SortedMap.lookupEntry name known = some a := by
  match v with
  | .string name =>
    cases origin <;> simp [enumeration, enumerationText, enumerationValue, Tree.ofValue, variant_eq_ok_iff]
  | .object fields => simp [enumeration_object_eq_ok_iff, and_assoc]
  | .null | .bool _ | .number (.integer ..) | .number (.double _) | .array _ =>
    cases origin <;> simp [enumeration, enumerationText, enumerationValue, Tree.ofValue, Tree.mismatch, Tree.found,
      faulty, Except.bind_eq_ok_iff]

end Reader

end ProcessCompiler.Json
