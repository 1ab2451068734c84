import ProcessCompiler.Proofs.Collections

/-!
# What records are read from

The reader of a record runs over the fields of an object and keeps what it met in slots. Here the outcome is said field
by field, without the run: a field holds what its only occurrence reads as, or its value for absence.

* `Record.read_object_eq_ok_iff`, `Record.read_array_eq_ok_iff`: when a value reads as a record, and as which.
* `Record.yields_of_read`: where the values of a record come from, whatever document it was read from.
* `Record.fits_write`: a record fits the object that it is written as, if each of its fields returns.
-/

namespace ProcessCompiler.Json

/-! ## Fields of a record -/

namespace Field

variable {α : Type} (field : Field α) (origin : Origin)

/-- What a slot holds after the occurrences of the field were met, if none of them is refused. -/
def Fills : Option α → List Value → Option α → Prop
  | slot, [], after => after = slot
  | some _, _ :: _, _ => False
  | none, v :: vs, after => ∃ a, field.codec.read origin (.ofValue v) = .ok a ∧ Fills (some a) vs after

/-- **Whether a field has a value**, given its occurrences: there is one, which reads as the value, or there is none and
that is its value for absence. -/
def Fits : List Value → α → Prop
  | [], value => field.absent = some value
  | [v], value => field.codec.read origin (.ofValue v) = .ok value
  | _ :: _ :: _, _ => False

/-- **Where the value of a field can come from**: a document, or one of the values for when there is none. -/
def Yields (value : α) : Prop :=
  (∃ tree, field.codec.read origin tree = .ok value) ∨ field.absent = some value ∨ field.cut = some value

/-- **Whether a value of a field comes back**: it is read from what it is written as, or it is left out and that means
this value. -/
def Returns (value : α) : Prop :=
  if field.omitted value then field.absent = some value
  else field.codec.read origin (.ofValue (field.codec.write value)) = .ok value

variable {field origin}

/-- A field fits only what stands under its name at most once. -/
theorem Fits.length_le_one {vs : List Value} {value : α} (fits : field.Fits origin vs value) : vs.length ≤ 1 := by
  match vs with
  | [] => exact Nat.zero_le 1
  | [_] => exact Nat.le_refl 1
  | _ :: _ :: _ => exact absurd fits id

theorem fits_iff_fills {vs : List Value} {value : α} :
    field.Fits origin vs value ↔ ∃ slot, field.Fills origin none vs slot ∧ slot.or field.absent = some value := by
  match vs with
  | [] => simp [Fits, Fills]
  | [v] =>
    simp only [Fits, Fills]
    constructor
    · exact fun read => ⟨some value, ⟨value, read, rfl⟩, rfl⟩
    · rintro ⟨_, ⟨a, read, rfl⟩, same⟩
      rwa [← Option.some.inj same]
  | _ :: _ :: _ => simp [Fits, Fills]

end Field

namespace Record

variable {σ τ : Type}

/-- The names of the fields. -/
def names : {σ τ : Type} → Record σ τ → List String
  | _, _, .nil => []
  | _, _, .cons field rest => field.name :: rest.names

/-! ## Objects -/

/-- **Whether a record has these values**, given the fields of an object. -/
def Fits : {σ τ : Type} → Record σ τ → Origin → List (String × Value) → τ → Prop
  | _, _, .nil, _, _, () => True
  | _, _, .cons field rest, origin, fields, (value, values) =>
    field.Fits origin (occurrences field.name fields) value ∧ rest.Fits origin fields values

/-- Only the occurrences of its own fields count for a record. -/
theorem fits_congr {record : Record σ τ} {origin : Origin} {fields fields' : List (String × Value)} {values : τ}
    (same : ∀ name ∈ record.names, occurrences name fields = occurrences name fields') :
    record.Fits origin fields values ↔ record.Fits origin fields' values := by
  induction record with
  | nil => rfl
  | cons field rest ih =>
    obtain ⟨value, values⟩ := values
    rw [names, List.forall_mem_cons] at same
    rw [Fits, Fits, same.1, ih same.2]

theorem steps_nil (origin : Origin) (fields : List (String × Value)) :
    Record.nil.steps origin () (Tree.ofFields fields) = .ok () := by
  induction fields with
  | nil => rfl
  | cons f fields ih =>
    obtain ⟨key, v⟩ := f
    simp only [Tree.ofFields, steps, step, faulty, Tree.skip_ofValue, bind, Except.bind, pure, Except.pure]
    exact ih

/-- The first field of a record takes its own occurrences, and the fields of another name are for the rest. -/
theorem steps_cons {α : Type} {field : Field α} {rest : Record σ τ} {origin : Origin}
    {fields : List (String × Value)} {slot slot' : Option α} {slots slots' : σ} :
    (Record.cons field rest).steps origin (slot, slots) (Tree.ofFields fields) = .ok (slot', slots') ↔
      field.Fills origin slot (occurrences field.name fields) slot' ∧
        rest.steps origin slots (Tree.ofFields (fields.filter fun f => f.1 ≠ field.name)) = .ok slots' := by
  induction fields generalizing slot slots with
  | nil => simp [Tree.ofFields, steps, occurrences, Field.Fills, eq_comm]
  | cons f fields ih =>
    obtain ⟨key, v⟩ := f
    by_cases own : key = field.name
    · subst own
      have passed : ((field.name, v) :: fields).filter (fun f => f.1 ≠ field.name) =
          fields.filter fun f => f.1 ≠ field.name := List.filter_cons_of_neg (by simp)
      rw [occurrences_cons_self, passed, Tree.ofFields, steps]
      cases slot with
      | some a => simp [step, faulty, Field.Fills, bind, Except.bind]
      | none =>
        cases read : field.codec.read origin (.ofValue v) with
        | error e => simp [step, faulty, Field.Fills, bind, Except.bind, read]
        | ok a => simpa [step, faulty, Field.Fills, bind, Except.bind, pure, Except.pure, read] using ih
    · have kept : ((key, v) :: fields).filter (fun f => f.1 ≠ field.name) =
          (key, v) :: fields.filter fun f => f.1 ≠ field.name := List.filter_cons_of_pos (by simpa using own)
      rw [occurrences_cons_of_ne own, kept, Tree.ofFields, steps, Tree.ofFields, steps]
      cases stepped : rest.step origin key (.ofValue v) slots with
      | error e => simp [step, own, faulty, bind, Except.bind, stepped]
      | ok after => simpa [step, own, faulty, bind, Except.bind, pure, Except.pure, stepped] using ih

theorem finish_cons {α : Type} {field : Field α} {rest : Record σ τ} {slot : Option α} {slots : σ} {value : α}
    {values : τ} : (Record.cons field rest).finish (slot, slots) = .ok (value, values) ↔
      slot.or field.absent = some value ∧ rest.finish slots = .ok values := by
  rw [finish]
  cases slot.or field.absent with
  | none => simp [bind, Except.bind]
  | some a =>
    cases rest.finish slots with
    | error e => simp [bind, Except.bind, pure, Except.pure]
    | ok others => simp [bind, Except.bind, pure, Except.pure]

/-- The run over the fields of an object ends with the values that fit them. -/
theorem fits_iff_steps {record : Record σ τ} (distinct : record.names.Nodup) {origin : Origin}
    {fields : List (String × Value)} {values : τ} : record.Fits origin fields values ↔
      ∃ slots, record.steps origin record.blank (Tree.ofFields fields) = .ok slots ∧
        record.finish slots = .ok values := by
  induction record generalizing fields with
  | nil => exact ⟨fun _ => ⟨(), steps_nil origin fields, rfl⟩, fun _ => trivial⟩
  | cons field rest ih =>
    obtain ⟨value, values⟩ := values
    obtain ⟨fresh, others⟩ := List.nodup_cons.1 distinct
    -- The rest does not see whether the occurrences of the first field are there.
    have apart : rest.Fits origin fields values ↔
        rest.Fits origin (fields.filter fun f => f.1 ≠ field.name) values := by
      refine fits_congr fun name among => (occurrences_filter_ne ?_ fields).symm
      rintro rfl
      exact fresh among
    rw [Fits, apart, Field.fits_iff_fills, ih others]
    constructor
    · rintro ⟨⟨slot, filled, given⟩, slots, run, done⟩
      exact ⟨(slot, slots), steps_cons.2 ⟨filled, run⟩, finish_cons.2 ⟨given, done⟩⟩
    · rintro ⟨⟨slot, slots⟩, run, done⟩
      obtain ⟨filled, run⟩ := steps_cons.1 run
      obtain ⟨given, done⟩ := finish_cons.1 done
      exact ⟨⟨slot, filled, given⟩, slots, run, done⟩

/-- **An object reads as the record that fits its fields**, if there is room for it. -/
theorem read_object_eq_ok_iff {record : Record σ τ} (distinct : record.names.Nodup) {name : String} {origin : Origin}
    {fields : List (String × Value)} {values : τ} :
    record.read name origin (.ofValue (.object fields)) = .ok values ↔
      ∃ inside, origin.enter = .ok inside ∧ record.Fits inside fields values := by
  rw [Tree.ofValue, read, Except.bind_eq_ok_iff]
  simp only [fits_iff_steps distinct]
  refine exists_congr fun inside => and_congr_right fun _ => ?_
  rw [Except.bind_eq_ok_iff]
  exact Iff.rfl

/-! ## Arrays -/

/-- **Whether a record has these values**, given the items of an array: each field has its item, and those behind the
last have their values for that case. -/
def FitsItems : {σ τ : Type} → Record σ τ → Origin → List Value → τ → Prop
  | _, _, .nil, _, items, () => items = []
  | _, _, .cons field rest, origin, [], (value, values) =>
    field.cut = some value ∧ rest.FitsItems origin [] values
  | _, _, .cons field rest, origin, item :: items, (value, values) =>
    field.codec.read origin (.ofValue item) = .ok value ∧ rest.FitsItems origin items values

theorem fitsItems_iff_items {record : Record σ τ} {origin : Origin} {expected : String} {index : Nat}
    {items : List Value} {values : τ} : record.FitsItems origin items values ↔
      record.items origin .closed expected index (Tree.ofItems items) = .ok (values, []) := by
  induction record generalizing index items with
  | nil =>
    cases items with
    | nil => simp [FitsItems, Record.items, Tree.ofItems]
    | cons item items => simp [FitsItems, Record.items, Tree.ofItems]
  | cons field rest ih =>
    obtain ⟨value, values⟩ := values
    cases items with
    | nil =>
      rw [FitsItems, ih, Tree.ofItems, Record.items]
      cases field.cut with
      | none => simp [Ending.read, faulty, bind, Except.bind]
      | some a =>
        cases rest.items origin .closed expected (index + 1) [] with
        | error e => simp [Ending.read, faulty, bind, Except.bind, pure, Except.pure]
        | ok others => simp [Ending.read, faulty, bind, Except.bind, pure, Except.pure, Prod.ext_iff, and_assoc]
    | cons item items =>
      rw [FitsItems, ih, Tree.ofItems, Record.items]
      cases field.codec.read origin (.ofValue item) with
      | error e => simp [bind, Except.bind]
      | ok a =>
        cases rest.items origin .closed expected (index + 1) (Tree.ofItems items) with
        | error e => simp [bind, Except.bind]
        | ok others => simp [bind, Except.bind, pure, Except.pure, Prod.ext_iff, and_assoc]

theorem endOfArray_closed {origin : Origin} {length : Nat} {left : List Tree} :
    endOfArray origin length left .closed = .ok () ↔ left = [] := by
  cases left with
  | nil => simp [endOfArray]
  | cons tree trees => cases origin <;> simp [endOfArray]

/-- **An array reads as the record that fits its items**, if there is room for it. -/
theorem read_array_eq_ok_iff {record : Record σ τ} {name : String} {origin : Origin} {items : List Value}
    {values : τ} : record.read name origin (.ofValue (.array items)) = .ok values ↔
      ∃ inside, origin.enter = .ok inside ∧ record.FitsItems inside items values := by
  rw [Tree.ofValue, read, Except.bind_eq_ok_iff]
  refine exists_congr fun inside => and_congr_right fun _ => ?_
  rw [fitsItems_iff_items, Except.bind_eq_ok_iff]
  constructor
  · rintro ⟨⟨others, left⟩, run, ended⟩
    obtain ⟨_, ended, done⟩ := Except.bind_eq_ok_iff.1 ended
    obtain rfl := endOfArray_closed.1 ended
    cases done
    exact run
  · exact fun run => ⟨_, run, Except.bind_eq_ok_iff.2 ⟨(), endOfArray_closed.2 rfl, rfl⟩⟩

/-! ## Any document -/

/-- **Where the values of a record can come from**, field by field. -/
def Yields : {σ τ : Type} → Record σ τ → Origin → τ → Prop
  | _, _, .nil, _, () => True
  | _, _, .cons field rest, origin, (value, values) => field.Yields origin value ∧ rest.Yields origin values

/-- What was met so far was read from a document. -/
def Met : {σ τ : Type} → Record σ τ → Origin → σ → Prop
  | _, _, .nil, _, () => True
  | _, _, .cons field rest, origin, (slot, slots) =>
    (∀ value, slot = some value → ∃ tree, field.codec.read origin tree = .ok value) ∧ rest.Met origin slots

theorem met_blank (record : Record σ τ) (origin : Origin) : record.Met origin record.blank := by
  induction record with
  | nil => trivial
  | cons field rest ih => exact ⟨nofun, ih⟩

/-- A step keeps what was met and may add what it reads. -/
theorem Met.step {record : Record σ τ} {origin : Origin} {slots slots' : σ} {key : String} {tree : Tree}
    (met : record.Met origin slots) (stepped : record.step origin key tree slots = .ok slots') :
    record.Met origin slots' := by
  induction record with
  | nil => trivial
  | cons field rest ih =>
    obtain ⟨slot, slots⟩ := slots
    obtain ⟨front, others⟩ := met
    unfold Record.step at stepped
    split at stepped
    · cases slot with
      | some a => cases stepped
      | none =>
        obtain ⟨value, read, stepped⟩ := Except.bind_eq_ok_iff.1 stepped
        cases stepped
        refine ⟨fun other same => ?_, others⟩
        obtain rfl := Option.some.inj same
        exact ⟨tree, read⟩
    · obtain ⟨after, inner, stepped⟩ := Except.bind_eq_ok_iff.1 stepped
      cases stepped
      exact ⟨front, ih others inner⟩

theorem Met.steps {record : Record σ τ} {origin : Origin} {slots slots' : σ}
    {fields : List (Except Fault String × Tree)} (met : record.Met origin slots)
    (run : record.steps origin slots fields = .ok slots') : record.Met origin slots' := by
  induction fields generalizing slots with
  | nil =>
    cases run
    exact met
  | cons f fields ih =>
    obtain ⟨key, tree⟩ := f
    rw [Record.steps] at run
    obtain ⟨key, _, run⟩ := Except.bind_eq_ok_iff.1 run
    obtain ⟨after, stepped, run⟩ := Except.bind_eq_ok_iff.1 run
    exact ih (met.step stepped) run

theorem Met.finish {record : Record σ τ} {origin : Origin} {slots : σ} {values : τ} (met : record.Met origin slots)
    (done : record.finish slots = .ok values) : record.Yields origin values := by
  induction record with
  | nil => trivial
  | cons field rest ih =>
    obtain ⟨slot, slots⟩ := slots
    obtain ⟨value, values⟩ := values
    obtain ⟨given, done⟩ := finish_cons.1 done
    refine ⟨?_, ih met.2 done⟩
    cases slot with
    | none => exact .inr (.inl given)
    | some a => exact .inl (met.1 value given)

/-- The items of an array give the values of the fields, and where it ends the values for that case do. -/
theorem yields_of_items {record : Record σ τ} {origin : Origin} {ending : Ending} {expected : String} {index : Nat}
    {trees left : List Tree} {values : τ}
    (run : record.items origin ending expected index trees = .ok (values, left)) : record.Yields origin values := by
  induction record generalizing index trees left with
  | nil => trivial
  | cons field rest ih =>
    obtain ⟨value, values⟩ := values
    cases trees with
    | nil =>
      rw [items] at run
      obtain ⟨_, _, run⟩ := Except.bind_eq_ok_iff.1 run
      cases short : field.cut with
      | none => simp [short, bind, Except.bind] at run
      | some a =>
        simp only [short] at run
        obtain ⟨_, given, run⟩ := Except.bind_eq_ok_iff.1 run
        cases given
        obtain ⟨⟨others, more⟩, inner, run⟩ := Except.bind_eq_ok_iff.1 run
        cases run
        exact ⟨.inr (.inr short), ih inner⟩
    | cons tree trees =>
      rw [items] at run
      obtain ⟨read, given, run⟩ := Except.bind_eq_ok_iff.1 run
      obtain ⟨⟨others, more⟩, inner, run⟩ := Except.bind_eq_ok_iff.1 run
      cases run
      exact ⟨.inl ⟨tree, given⟩, ih inner⟩

/-- **The values of a record that was read come each from a document one level deeper**, or from the lack of one. -/
theorem yields_of_read {record : Record σ τ} {name : String} {origin : Origin} {tree : Tree} {values : τ}
    (read : record.read name origin tree = .ok values) :
    ∃ inside, origin.enter = .ok inside ∧ record.Yields inside values := by
  unfold Record.read at read
  split at read
  · obtain ⟨inside, entered, read⟩ := Except.bind_eq_ok_iff.1 read
    obtain ⟨slots, run, read⟩ := Except.bind_eq_ok_iff.1 read
    obtain ⟨_, _, done⟩ := Except.bind_eq_ok_iff.1 read
    exact ⟨inside, entered, ((met_blank record inside).steps run).finish done⟩
  · obtain ⟨_, _, read⟩ := Except.bind_eq_ok_iff.1 read
    cases read
  · obtain ⟨inside, entered, read⟩ := Except.bind_eq_ok_iff.1 read
    obtain ⟨⟨others, left⟩, run, read⟩ := Except.bind_eq_ok_iff.1 read
    obtain ⟨_, _, read⟩ := Except.bind_eq_ok_iff.1 read
    cases read
    exact ⟨inside, entered, yields_of_items run⟩
  · obtain ⟨_, _, read⟩ := Except.bind_eq_ok_iff.1 read
    cases read

/-! ## Written records -/

/-- **Whether the values of a record come back**, field by field. -/
def Returns : {σ τ : Type} → Record σ τ → Origin → τ → Prop
  | _, _, .nil, _, () => True
  | _, _, .cons field rest, origin, (value, values) => field.Returns origin value ∧ rest.Returns origin values

/-- Only names of the record are written. -/
theorem occurrences_write_of_notMem {record : Record σ τ} {values : τ} {name : String}
    (absent : name ∉ record.names) : occurrences name (record.write values) = [] := by
  induction record with
  | nil => rfl
  | cons field rest ih =>
    obtain ⟨value, values⟩ := values
    rw [names, List.mem_cons, not_or] at absent
    rw [write]
    split
    · exact ih absent.2
    · rw [occurrences_cons_of_ne (Ne.symm absent.1)]
      exact ih absent.2

/-- **A record whose values come back fits the object that it is written as.** -/
theorem fits_write {record : Record σ τ} (distinct : record.names.Nodup) {origin : Origin} {values : τ}
    (returns : record.Returns origin values) : record.Fits origin (record.write values) values := by
  induction record with
  | nil => trivial
  | cons field rest ih =>
    obtain ⟨value, values⟩ := values
    obtain ⟨fresh, others⟩ := List.nodup_cons.1 distinct
    obtain ⟨front, behind⟩ := returns
    have none : occurrences field.name (rest.write values) = [] := occurrences_write_of_notMem fresh
    rw [Field.Returns] at front
    rw [write]
    split
    · next left =>
      rw [if_pos left] at front
      refine ⟨?_, ih others behind⟩
      rw [none]
      exact front
    · next kept =>
      rw [if_neg kept] at front
      refine ⟨?_, (fits_congr fun name among => ?_).2 (ih others behind)⟩
      · rw [occurrences_cons_self, none]
        exact front
      · refine occurrences_cons_of_ne ?_ _ _
        rintro rfl
        exact fresh among

end Record

end ProcessCompiler.Json
