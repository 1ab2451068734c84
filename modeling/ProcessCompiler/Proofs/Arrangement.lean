import ProcessCompiler.Proofs.Collections

/-!
# The order of the fields of an object

What is read from an object depends on what stands under each name, not on where: the fields of an object can be put in
another order, and of two under one name the earlier can be dropped, wherever an object is read that can be read at all.

* `Arrangement`: a way to put the fields of an object.
* `Value.arranged`: a value with all its objects put this way; `Value.sorted`, with their fields in ascending order.
-/

namespace ProcessCompiler

/-- A map of bindings finds the last that stands under each name. -/
theorem SortedMap.find?_ofList_eq_getLast? {α : Type} (entries : List (String × α)) (name : String) :
    (SortedMap.ofList entries).find? name = (Json.occurrences name entries).getLast? := by
  rw [find?_ofList, Json.occurrences, ← List.head?_reverse, ← List.filterMap_reverse, List.head?_filterMap]
  induction entries.reverse with
  | nil => rfl
  | cons e entries ih =>
    rw [List.find?_cons, List.findSome?_cons]
    by_cases same : e.1 = name
    · simp [same]
    · rw [beq_eq_false_iff_ne.2 same, if_neg same]
      exact ih

namespace Json

/-- **A way to put the fields of an object** that leaves what counts under each name: it may drop some of the values
under a name, but not the last, and their order stays. -/
structure Arrangement where
  arrange : List (String × Value) → List (String × Value)
  suffix : ∀ name fields, occurrences name (arrange fields) <:+ occurrences name fields
  kept : ∀ name fields, occurrences name (arrange fields) = [] → occurrences name fields = []

namespace Arrangement

variable (A : Arrangement)

/-- The last value under a name stays the last. -/
theorem getLast?_occurrences (name : String) (fields : List (String × Value)) :
    (occurrences name (A.arrange fields)).getLast? = (occurrences name fields).getLast? := by
  obtain ⟨front, same⟩ := A.suffix name fields
  rw [← same, List.getLast?_append]
  cases last : (occurrences name (A.arrange fields)).getLast? with
  | some v => rfl
  | none =>
    have empty := List.getLast?_eq_none_iff.1 last
    have none := A.kept name fields empty
    rw [empty, List.append_nil] at same
    rw [same, none]
    rfl

/-- The only value under a name stays. -/
theorem occurrences_arrange {name : String} {fields : List (String × Value)}
    (once : (occurrences name fields).length ≤ 1) :
    occurrences name (A.arrange fields) = occurrences name fields := by
  refine (A.suffix name fields).eq_of_length_le ?_
  rcases Nat.eq_zero_or_pos (occurrences name (A.arrange fields)).length with empty | some
  · have none := A.kept name fields (List.eq_nil_of_length_eq_zero empty)
    rw [none]
    exact Nat.zero_le _
  · exact Nat.le_trans once some

theorem mem_of_mem_arrange {fields : List (String × Value)} {f : String × Value} (among : f ∈ A.arrange fields) :
    f ∈ fields := by
  have occurs : f.2 ∈ occurrences f.1 (A.arrange fields) := mem_occurrences.2 among
  exact mem_occurrences.1 ((A.suffix f.1 fields).subset occurs)

/-- A field that stands alone stays. -/
theorem arrange_singleton (f : String × Value) : A.arrange [f] = [f] := by
  have all : ∀ g ∈ A.arrange [f], g = f := fun g among => List.mem_singleton.1 (A.mem_of_mem_arrange among)
  have alone : occurrences f.1 (A.arrange [f]) = [f.2] := by
    rw [A.occurrences_arrange (by simp [occurrences]), occurrences_cons_self]
    rfl
  have every : occurrences f.1 (A.arrange [f]) = (A.arrange [f]).map (·.2) := by
    rw [occurrences, ← List.filterMap_eq_map]
    refine List.filterMap_congr fun g among => ?_
    rw [if_pos (by rw [all g among])]
    rfl
  have single : (A.arrange [f]).length = 1 := by rw [← List.length_map (·.2), ← every, alone]; rfl
  obtain ⟨g, only⟩ := List.length_eq_one_iff.1 single
  rw [only, all g (by rw [only]; exact List.mem_singleton_self g)]

/-- The fields stay as they are. -/
def asWritten : Arrangement where
  arrange := id
  suffix := fun _ _ => List.suffix_rfl
  kept := fun _ _ => id

theorem occurrences_ofList (name : String) (fields : List (String × Value)) :
    occurrences name (SortedMap.ofList fields).entries = (occurrences name fields).getLast?.toList := by
  rw [occurrences_entries, SortedMap.find?_ofList_eq_getLast?]

/-- The names ascend, and of two fields of one name the later counts. -/
def ascending : Arrangement where
  arrange := fun fields => (SortedMap.ofList fields).entries
  suffix := fun name fields => by
    rw [occurrences_ofList]
    cases last : (occurrences name fields).getLast? with
    | none => exact List.nil_suffix
    | some v =>
      obtain ⟨front, same⟩ := List.getLast?_eq_some_iff.1 last
      exact ⟨front, same.symm⟩
  kept := fun name fields none => by
    rw [occurrences_ofList] at none
    exact List.getLast?_eq_none_iff.1 (Option.toList_eq_nil_iff.1 none)

end Arrangement

namespace Value

mutual

/-- **The value with the fields of each of its objects put in this way.** -/
def arranged (A : Arrangement) : Value → Value
  | .null => .null
  | .bool value => .bool value
  | .number value => .number value
  | .string value => .string value
  | .array items => .array (arrangedAll A items)
  | .object fields => .object (A.arrange (arrangedFields A fields))

/-- The values with the fields of each of their objects put in this way. -/
def arrangedAll (A : Arrangement) : List Value → List Value
  | [] => []
  | item :: items => item.arranged A :: arrangedAll A items

/-- The fields with those of each object in them put in this way. -/
def arrangedFields (A : Arrangement) : List (String × Value) → List (String × Value)
  | [] => []
  | (key, value) :: fields => (key, value.arranged A) :: arrangedFields A fields

end

variable (A : Arrangement)

theorem arranged_array (items : List Value) : (array items).arranged A = array (items.map (arranged A)) := by
  have all : arrangedAll A items = items.map (arranged A) := by
    induction items with
    | nil => rfl
    | cons item items ih => rw [arrangedAll, ih, List.map_cons]
  rw [arranged, all]

theorem arranged_object (fields : List (String × Value)) :
    (object fields).arranged A = object (A.arrange (fields.map fun f => (f.1, f.2.arranged A))) := by
  have all : arrangedFields A fields = fields.map fun f => (f.1, f.2.arranged A) := by
    induction fields with
    | nil => rfl
    | cons field fields ih => rw [arrangedFields, ih, List.map_cons]
  rw [arranged, all]

/-- What is left under a name was arranged from a field of the object. -/
theorem exists_of_mem_arrange {name : String} {w : Value} {fields : List (String × Value)}
    (among : (name, w) ∈ A.arrange (fields.map fun f => (f.1, f.2.arranged A))) :
    ∃ v, (name, v) ∈ fields ∧ v.arranged A = w := by
  obtain ⟨⟨key, v⟩, listed, same⟩ := List.mem_map.1 (A.mem_of_mem_arrange among)
  cases same
  exact ⟨v, listed, rfl⟩

mutual

theorem arranged_asWritten (v : Value) : v.arranged .asWritten = v := by
  match v with
  | .null | .bool _ | .number _ | .string _ => rfl
  | .array items => rw [arranged, arrangedAll_asWritten items]
  | .object fields =>
    rw [arranged, arrangedFields_asWritten fields]
    rfl

theorem arrangedAll_asWritten (items : List Value) : arrangedAll .asWritten items = items := by
  match items with
  | [] => rfl
  | item :: items => rw [arrangedAll, arranged_asWritten item, arrangedAll_asWritten items]

theorem arrangedFields_asWritten (fields : List (String × Value)) : arrangedFields .asWritten fields = fields := by
  match fields with
  | [] => rfl
  | (key, value) :: fields => rw [arrangedFields, arranged_asWritten value, arrangedFields_asWritten fields]

end

/-- **The value with the fields of each object in ascending order of their names**; of two of one name the later
counts. -/
def sorted (v : Value) : Value := v.arranged .ascending

end Value

end Json

end ProcessCompiler
