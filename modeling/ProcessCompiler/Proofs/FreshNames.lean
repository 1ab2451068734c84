import ProcessCompiler.Metadata

/-!
# Names for builders

A builder gets the name that it asks for or, if another builder has it, the first of the numbered ones that is free. As
different numbers give different names, one more number than there are names is enough.

* `Metadata.contains_freshHandle`: the name that a builder gets is free.
-/

namespace ProcessCompiler

namespace Metadata

theorem numbered_inj {base : String} {i j : Nat} (h : numbered base i = numbered base j) : i = j := by
  have chars := congrArg String.toList h
  simp only [numbered, String.toList_append] at chars
  have digits : (toString i).toList = (toString j).toList := List.append_cancel_left chars
  have read := congrArg (fun cs => Nat.ofDigitChars 10 cs 0) digits
  simpa [Nat.toString_eq_ofList_toDigits] using read

/-- The search ends at the first free number, or runs out of tries with all numbers before taken. -/
theorem search_eq (taken : NameSet) (base : String) (n tries : Nat) :
    ∃ k, search taken base n tries = numbered base (n + k) ∧ (∀ j < k, taken.contains (numbered base (n + j)) = true) ∧
      (taken.contains (numbered base (n + k)) = false ∨ k = tries) := by
  induction tries generalizing n with
  | zero => exact ⟨0, rfl, by omega, .inr rfl⟩
  | succ tries ih =>
    rw [search]
    split
    · next used =>
      obtain ⟨k, found, before, last⟩ := ih (n + 1)
      refine ⟨k + 1, by rw [found, Nat.add_right_comm n 1 k]; rfl, ?_, ?_⟩
      · rintro (_ | j) below
        · exact used
        · have := before j (by omega)
          rwa [Nat.add_right_comm n 1 j] at this
      · rw [Nat.add_right_comm n 1 k] at last
        exact last.imp_right fun same => by omega
    · next free => exact ⟨0, rfl, by omega, .inl (by simpa using free)⟩

/-- Of one more number than there are names, one is free. -/
theorem exists_numbered_free (taken : NameSet) (base : String) (n : Nat) :
    ∃ j ≤ taken.entries.length, taken.contains (numbered base (n + j)) = false := by
  refine Classical.byContradiction fun none => ?_
  have all : ∀ j ≤ taken.entries.length, numbered base (n + j) ∈ taken.keys := by
    intro j below
    rw [SortedMap.mem_keys_iff]
    cases free : taken.contains (numbered base (n + j)) with
    | false => exact absurd ⟨j, below, free⟩ none
    | true => exact free
  have distinct : ((List.range (taken.entries.length + 1)).map fun j => numbered base (n + j)).Nodup := by
    refine List.pairwise_map.2 (List.nodup_range.imp ?_)
    intro i j differ same
    have := numbered_inj same
    omega
  have inside : ((List.range (taken.entries.length + 1)).map fun j => numbered base (n + j)) ⊆ taken.keys := by
    intro name member
    obtain ⟨j, listed, rfl⟩ := List.mem_map.1 member
    have := List.mem_range.1 listed
    exact all j (by omega)
  have short := distinct.length_le_of_subset inside
  simp only [List.length_map, List.length_range, SortedMap.keys] at short
  omega

theorem contains_search (taken : NameSet) (base : String) (n : Nat) :
    taken.contains (search taken base n taken.entries.length) = false := by
  obtain ⟨k, found, before, free | last⟩ := search_eq taken base n taken.entries.length
  · rw [found]
    exact free
  · obtain ⟨j, below, free⟩ := exists_numbered_free taken base n
    have notBefore : ¬ j < k := fun earlier => by simp [before j earlier] at free
    have same : j = k := by omega
    rw [found, ← same]
    exact free

/-- **The name that a builder gets is free.** -/
theorem contains_freshHandle (m : Metadata) (base : String) : m.handles.contains (m.freshHandle base) = false := by
  unfold freshHandle
  split
  · exact contains_search _ _ _
  · next free => simpa using free

/-- A builder gets the name it asks for, or that with a number behind it. -/
theorem freshHandle_eq (m : Metadata) (base : String) :
    m.freshHandle base = base ∨ ∃ n, m.freshHandle base = numbered base n := by
  unfold freshHandle
  split
  · obtain ⟨k, found, _⟩ := search_eq m.handles base 2 m.handles.entries.length
    exact .inr ⟨_, found⟩
  · exact .inl rfl

end Metadata

end ProcessCompiler
