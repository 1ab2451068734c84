/-!
# Maps from names, in ascending order

The order of the keys is that of their code points, and belongs to the type: two maps with the same bindings are equal.

* `find?_insert`: a map finds what was put last under a name.
* `mem_entries_iff`: the entries of a map are what it finds.
* `eq_of_find?_eq`: maps that find the same are equal.
-/

namespace ProcessCompiler

/-- Bindings of names with the names strictly ascending. -/
structure SortedMap (α : Type) where
  entries : List (String × α)
  ascending : entries.Pairwise (fun a b => a.1 < b.1)

namespace SortedMap

variable {α : Type}

/-- Puts a binding into ascending entries, in place of one of the same name. -/
def insertEntry (name : String) (value : α) : List (String × α) → List (String × α)
  | [] => [(name, value)]
  | (other, old) :: rest =>
    if name < other then (name, value) :: (other, old) :: rest
    else if name = other then (name, value) :: rest
    else (other, old) :: insertEntry name value rest

/-- The binding of a name in a list of entries. -/
def lookupEntry (name : String) : List (String × α) → Option α
  | [] => none
  | (other, value) :: rest => if name = other then some value else lookupEntry name rest

theorem mem_insertEntry {name : String} {value : α} {entries : List (String × α)} {e : String × α}
    (h : e ∈ insertEntry name value entries) : e = (name, value) ∨ e ∈ entries := by
  induction entries with
  | nil => simpa [insertEntry] using h
  | cons head rest ih =>
    rw [insertEntry] at h
    split at h
    · simpa using h
    · split at h
      · simp only [List.mem_cons] at h ⊢
        exact h.imp_right .inr
      · simp only [List.mem_cons] at h ⊢
        rcases h with h | h
        · exact .inr (.inl h)
        · exact (ih h).imp_right .inr

theorem pairwise_insertEntry (name : String) (value : α) {entries : List (String × α)}
    (h : entries.Pairwise (fun a b => a.1 < b.1)) :
    (insertEntry name value entries).Pairwise (fun a b => a.1 < b.1) := by
  induction entries with
  | nil => simp [insertEntry]
  | cons head rest ih =>
    obtain ⟨other, old⟩ := head
    obtain ⟨first, others⟩ := List.pairwise_cons.1 h
    rw [insertEntry]
    split
    · next below =>
      refine List.pairwise_cons.2 ⟨fun e he => ?_, h⟩
      rcases List.mem_cons.1 he with rfl | he
      · exact below
      · exact String.lt_trans below (first e he)
    · next notBelow =>
      split
      · next same => subst same; exact List.pairwise_cons.2 ⟨first, others⟩
      · next differ =>
        refine List.pairwise_cons.2 ⟨fun e he => ?_, ih others⟩
        rcases mem_insertEntry he with rfl | he
        · grind
        · exact first e he

/-- The map without bindings. -/
def empty : SortedMap α := ⟨[], List.Pairwise.nil⟩

/-- The map with a name bound to a value, whatever it was bound to. -/
def insert (map : SortedMap α) (name : String) (value : α) : SortedMap α :=
  ⟨insertEntry name value map.entries, pairwise_insertEntry name value map.ascending⟩

/-- The value that a name is bound to. -/
def find? (map : SortedMap α) (name : String) : Option α := lookupEntry name map.entries

/-- Whether a name is bound. -/
def contains (map : SortedMap α) (name : String) : Bool := (map.find? name).isSome

/-- The names, in ascending order. -/
def keys (map : SortedMap α) : List String := map.entries.map (·.1)

/-- Whether nothing is bound. -/
def isEmpty (map : SortedMap α) : Bool := map.entries.isEmpty

/-- The map of a list of bindings; of two with one name the later counts. -/
def ofList (entries : List (String × α)) : SortedMap α :=
  entries.foldl (fun map e => map.insert e.1 e.2) empty

instance : EmptyCollection (SortedMap α) := ⟨empty⟩

instance : Inhabited (SortedMap α) := ⟨empty⟩

@[ext] theorem ext {a b : SortedMap α} (h : a.entries = b.entries) : a = b := by
  cases a; cases b; cases h; rfl

theorem lookupEntry_insertEntry (name other : String) (value : α) (entries : List (String × α)) :
    lookupEntry other (insertEntry name value entries) =
      if other = name then some value else lookupEntry other entries := by
  induction entries with
  | nil => simp [insertEntry, lookupEntry]
  | cons head rest ih =>
    obtain ⟨k, v⟩ := head
    rw [insertEntry]
    split
    · simp [lookupEntry]
    · split
      · next same => subst same; by_cases h : other = name <;> simp [lookupEntry, h]
      · next differ =>
        by_cases h : other = name
        · subst h; simp [lookupEntry, differ, ih]
        · by_cases hk : other = k
          · subst hk; simp [lookupEntry, h]
          · simp [lookupEntry, ih, h, hk]

/-- A map finds what was put last under a name, and else what it found before. -/
theorem find?_insert (map : SortedMap α) (name other : String) (value : α) :
    (map.insert name value).find? other = if other = name then some value else map.find? other :=
  lookupEntry_insertEntry name other value map.entries

@[simp] theorem find?_empty (name : String) : (empty : SortedMap α).find? name = none := rfl

/-- What is put into a map later counts more. -/
theorem find?_foldl_insert (entries : List (String × α)) (map : SortedMap α) (name : String) :
    (entries.foldl (fun map e => map.insert e.1 e.2) map).find? name =
      ((entries.reverse.find? fun e => e.1 == name).map (·.2)).or (map.find? name) := by
  induction entries generalizing map with
  | nil => rfl
  | cons e entries ih =>
    rw [List.foldl_cons, ih, find?_insert, List.reverse_cons, List.find?_append]
    cases entries.reverse.find? fun e => e.1 == name with
    | some later => rfl
    | none =>
      by_cases same : name = e.1
      · simp [same]
      · simp [same, Ne.symm same]

/-- A map of bindings finds the last one of a name. -/
theorem find?_ofList (entries : List (String × α)) (name : String) :
    (ofList entries).find? name = (entries.reverse.find? fun e => e.1 == name).map (·.2) := by
  rw [ofList, find?_foldl_insert]
  exact Option.or_none

theorem lookupEntry_eq_none {name : String} {entries : List (String × α)} (h : ∀ e ∈ entries, name < e.1) :
    lookupEntry name entries = none := by
  induction entries with
  | nil => rfl
  | cons head rest ih =>
    have differ : name ≠ head.1 := fun same => String.lt_irrefl name (by simpa [same] using h head (by simp))
    simp only [lookupEntry, if_neg differ]
    exact ih fun e he => h e (by simp [he])

/-- In ascending entries a binding is in the list exactly if it is the one that is found. -/
theorem mem_iff_lookupEntry {entries : List (String × α)} (h : entries.Pairwise (fun a b => a.1 < b.1))
    (name : String) (value : α) : (name, value) ∈ entries ↔ lookupEntry name entries = some value := by
  induction entries with
  | nil => simp [lookupEntry]
  | cons head rest ih =>
    obtain ⟨first, others⟩ := List.pairwise_cons.1 h
    obtain ⟨k, v⟩ := head
    by_cases same : name = k
    · subst same
      have absent : (name, value) ∉ rest := fun he => String.lt_irrefl name (first _ he)
      simp [lookupEntry, absent, eq_comm]
    · simp [lookupEntry, same, ih others]

/-- A binding belongs to a map exactly if it is the one that is found. -/
theorem mem_entries_iff (map : SortedMap α) (name : String) (value : α) :
    (name, value) ∈ map.entries ↔ map.find? name = some value :=
  mem_iff_lookupEntry map.ascending name value

/-- The names are in ascending order, so none comes twice. -/
theorem pairwise_keys (map : SortedMap α) : map.keys.Pairwise (· < ·) :=
  List.pairwise_map.2 map.ascending

theorem nodup_keys (map : SortedMap α) : map.keys.Nodup :=
  map.pairwise_keys.imp (by
    rintro name other below rfl
    exact String.lt_irrefl _ below)

theorem mem_keys_iff (map : SortedMap α) (name : String) : name ∈ map.keys ↔ (map.find? name).isSome := by
  simp only [keys, List.mem_map, Option.isSome_iff_exists, ← mem_entries_iff]
  exact ⟨fun ⟨e, he, same⟩ => ⟨e.2, by rw [← same]; exact he⟩, fun ⟨value, he⟩ => ⟨_, he, rfl⟩⟩

theorem eq_empty_of_isEmpty {map : SortedMap α} (h : map.isEmpty = true) : map = .empty :=
  SortedMap.ext (List.isEmpty_iff.1 h)

/-- Two maps that find the same are equal. -/
theorem eq_of_find?_eq {a b : SortedMap α} (h : ∀ name, a.find? name = b.find? name) : a = b := by
  have distinct : ∀ map : SortedMap α, map.entries.Nodup := fun map =>
    map.ascending.imp (by
      rintro e f below rfl
      exact String.lt_irrefl _ below)
  have members : ∀ e, e ∈ a.entries ↔ e ∈ b.entries := by
    rintro ⟨name, value⟩
    rw [mem_entries_iff, mem_entries_iff, h]
  apply SortedMap.ext
  apply List.Perm.eq_of_pairwise _ a.ascending b.ascending
  · exact (List.perm_ext_iff_of_nodup (distinct a) (distinct b)).2 members
  · intro e f _ _ below above
    exact absurd (String.lt_trans below above) (String.lt_irrefl _)

end SortedMap

/-- A set of names, in ascending order. -/
abbrev NameSet := SortedMap Unit

namespace NameSet

/-- The set with a name added. -/
def add (names : NameSet) (name : String) : NameSet := SortedMap.insert names name ()

/-- The names of the set, in ascending order. -/
def toList (names : NameSet) : List String := SortedMap.keys names

/-- What is in a set after a name was added. -/
theorem mem_toList_add (names : NameSet) (name other : String) :
    other ∈ (names.add name).toList ↔ other = name ∨ other ∈ names.toList := by
  simp only [toList, add, SortedMap.mem_keys_iff, SortedMap.find?_insert]
  by_cases h : other = name <;> simp [h]

end NameSet

end ProcessCompiler
