/-!
# Sets of characters as ranges of code points

A set is a list of closed ranges in ascending order, so that a search stops at the first range above its character.
-/

namespace ProcessCompiler.Text

/-- Closed ranges of code points, in ascending order and apart from each other. -/
abbrev Ranges := List (Nat × Nat)

/-- Whether a code point lies in one of the ranges. -/
def Ranges.has : Ranges → Nat → Bool
  | [], _ => false
  | (lo, hi) :: rest, n => if n < lo then false else n ≤ hi || Ranges.has rest n

/-- The ranges ascend, are not empty and do not touch. -/
def Ranges.Ascending (ranges : Ranges) : Prop :=
  (∀ r ∈ ranges, r.1 ≤ r.2) ∧ ranges.Pairwise (fun r s => r.2 < s.1)

/-- In ascending ranges the search finds a code point exactly if a range holds it. -/
theorem Ranges.has_iff {ranges : Ranges} (h : ranges.Ascending) {n : Nat} :
    ranges.has n = true ↔ ∃ r ∈ ranges, r.1 ≤ n ∧ n ≤ r.2 := by
  induction ranges with
  | nil => simp [Ranges.has]
  | cons r rest ih =>
    obtain ⟨le, pairwise⟩ := h
    have ih := ih ⟨fun s hs => le s (List.mem_cons_of_mem _ hs), (List.pairwise_cons.1 pairwise).2⟩
    have later := (List.pairwise_cons.1 pairwise).1
    have le_rest := fun s hs => le s (List.mem_cons_of_mem r hs)
    have first := le r List.mem_cons_self
    by_cases below : n < r.1
    · simp only [Ranges.has, below, if_true, Bool.false_eq_true, List.mem_cons, false_iff, not_exists, not_and]
      rintro s (rfl | hs)
      · omega
      · have := later s hs; omega
    · simp only [Ranges.has, below, if_false, Bool.or_eq_true, decide_eq_true_eq, ih, List.mem_cons,
        exists_eq_or_imp]
      constructor
      · rintro (h | h)
        · exact .inl ⟨by omega, h⟩
        · exact .inr h
      · rintro (h | h)
        · exact .inl h.2
        · exact .inr h

end ProcessCompiler.Text
