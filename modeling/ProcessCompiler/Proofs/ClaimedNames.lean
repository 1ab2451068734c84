import Mathlib.Data.List.Basic
import ProcessCompiler.Proofs.FreshNames

/-!
# Names that are claimed one after the other

Builders claim their names from one set, and the bases they ask for may be anything, also what another base becomes with
a number behind it. Each claim gets the least of its candidates that is free: the base, and then the base with the
numbers from two on. The search for it ends, as each candidate that it passes is another name that is taken.

* `LeastFree`: the name that a claim should get.
* `Tries`: the search, candidate by candidate, with nothing that bounds it.
* `LeastFree.exists_tries`: the search ends with that name.
* `Metadata.names_of_claims`: whole sequences of claims.
-/

namespace ProcessCompiler

open Metadata (numbered)

/-- **The least free candidate** beside the names that are taken: the base if it is free, and else the first free one of
those with a number. -/
inductive LeastFree (taken : List String) (base : String) : String → Prop
  | own (free : base ∉ taken) : LeastFree taken base base
  | counted {n : Nat} (used : base ∈ taken) (two : 2 ≤ n) (free : numbered base n ∉ taken)
      (before : ∀ k, 2 ≤ k → k < n → numbered base k ∈ taken) : LeastFree taken base (numbered base n)

/-- **The search for a name.** It is at a candidate and has the number of the next one; it ends with a candidate that is
free, after so many that are not. -/
inductive Tries (taken : List String) (base : String) : String → Nat → Nat → String → Prop
  | free {candidate : String} {next : Nat} (free : candidate ∉ taken) : Tries taken base candidate next 0 candidate
  | used {candidate name : String} {next steps : Nat} (used : candidate ∈ taken)
      (more : Tries taken base (numbered base next) (next + 1) steps name) :
      Tries taken base candidate next (steps + 1) name

section Search

variable {taken : List String} {base candidate name name' : String} {n k next steps steps' : Nat}

/-- A name with a number behind it is longer. -/
theorem Metadata.numbered_ne (base : String) (n : Nat) : numbered base n ≠ base := by
  intro same
  have lengths := congrArg (fun text => text.toList.length) same
  simp [numbered] at lengths

/-- A search goes one way. -/
theorem Tries.unique (tries : Tries taken base candidate next steps name)
    (tries' : Tries taken base candidate next steps' name') : steps = steps' ∧ name = name' := by
  induction tries generalizing steps' with
  | free free =>
    cases tries' with
    | free => exact ⟨rfl, rfl⟩
    | used used => exact absurd used free
  | used used more ih =>
    cases tries' with
    | free free => exact absurd used free
    | used _ more' =>
      obtain ⟨rfl, rfl⟩ := ih more'
      exact ⟨rfl, rfl⟩

/-- The search among the numbers from one on. -/
theorem tries_numbered (before : ∀ j < k, numbered base (n + j) ∈ taken) (free : numbered base (n + k) ∉ taken) :
    Tries taken base (numbered base n) (n + 1) k (numbered base (n + k)) := by
  induction k generalizing n with
  | zero => exact .free free
  | succ k ih =>
    have shift (j : Nat) : n + (j + 1) = n + 1 + j := by omega
    refine .used (before 0 (Nat.succ_pos k)) ?_
    rw [shift k] at free ⊢
    refine ih (fun j below => ?_) free
    rw [← shift]
    exact before (j + 1) (Nat.succ_lt_succ below)

/-- Of the candidates before a free one there are no more than there are names. -/
theorem length_le_of_candidates (used : base ∈ taken) (before : ∀ j < k, numbered base (2 + j) ∈ taken) :
    k + 1 ≤ taken.length := by
  have distinct : (base :: (List.range k).map fun j => numbered base (2 + j)).Nodup := by
    refine List.nodup_cons.2 ⟨fun member => ?_, List.pairwise_map.2 (List.nodup_range.imp fun {i j} differ same => ?_)⟩
    · obtain ⟨j, _, same⟩ := List.mem_map.1 member
      exact Metadata.numbered_ne base (2 + j) same
    · have := Metadata.numbered_inj same
      omega
  have inside : (base :: (List.range k).map fun j => numbered base (2 + j)) ⊆ taken := by
    refine List.cons_subset.2 ⟨used, fun name member => ?_⟩
    obtain ⟨j, listed, rfl⟩ := List.mem_map.1 member
    exact before j (List.mem_range.1 listed)
  have short := distinct.length_le_of_subset inside
  simpa using short

/-- **The search ends** with the least free candidate, after no more steps than there are names. -/
theorem LeastFree.exists_tries (least : LeastFree taken base name) :
    ∃ steps ≤ taken.length, Tries taken base base 2 steps name := by
  cases least with
  | own free => exact ⟨0, Nat.zero_le _, .free free⟩
  | @counted n used two free before =>
    obtain ⟨k, rfl⟩ := Nat.exists_eq_add_of_le two
    have passed : ∀ j < k, numbered base (2 + j) ∈ taken := fun j below => before (2 + j) (by omega) (by omega)
    exact ⟨k + 1, length_le_of_candidates used passed, .used used (tries_numbered passed free)⟩

/-- Only which names are taken matters. -/
theorem LeastFree.congr {taken' : List String} (least : LeastFree taken base name) (same : taken.Perm taken') :
    LeastFree taken' base name := by
  cases least with
  | own free => exact .own (same.mem_iff.not.1 free)
  | counted used two free before =>
    exact .counted (same.mem_iff.1 used) two (same.mem_iff.not.1 free) fun k least below =>
      same.mem_iff.1 (before k least below)

end Search

/-! ## Sets of names -/

namespace NameSet

variable {names : NameSet} {name : String}

theorem contains_eq_true_iff : names.contains name = true ↔ name ∈ names.toList := (names.mem_keys_iff name).symm

theorem contains_eq_false_iff : names.contains name = false ↔ name ∉ names.toList := by
  rw [← contains_eq_true_iff, Bool.not_eq_true]

/-- A set grows by a name that was not in it. -/
theorem toList_add_perm (free : name ∉ names.toList) : (names.add name).toList.Perm (name :: names.toList) := by
  refine (List.perm_ext_iff_of_nodup (SortedMap.nodup_keys _) (List.nodup_cons.2 ⟨free, names.nodup_keys⟩)).2 ?_
  intro other
  rw [List.mem_cons]
  exact mem_toList_add names name other

end NameSet

namespace Metadata

/-! ## Sequences of claims -/

/-- A claim gets the least free candidate. -/
theorem leastFree_freshHandle (m : Metadata) (base : String) :
    LeastFree m.handles.toList base (m.freshHandle base) := by
  unfold freshHandle
  split
  · next used =>
    have free := contains_search m.handles base 2
    obtain ⟨k, found, before, -⟩ := search_eq m.handles base 2 m.handles.entries.length
    rw [found] at free ⊢
    refine .counted (NameSet.contains_eq_true_iff.1 used) (Nat.le_add_right 2 k)
      (NameSet.contains_eq_false_iff.1 free) fun j two below => ?_
    obtain ⟨i, rfl⟩ := Nat.exists_eq_add_of_le two
    exact NameSet.contains_eq_true_iff.1 (before i (by omega))
  · next free => exact .own (NameSet.contains_eq_false_iff.1 (Bool.eq_false_iff.2 free))

theorem freshHandle_notMem (m : Metadata) (base : String) : m.freshHandle base ∉ m.handles.toList :=
  NameSet.contains_eq_false_iff.1 (m.contains_freshHandle base)

/-- What is gathered after claims. -/
def afterClaims (m : Metadata) (bases : List String) : Metadata := bases.foldl (fun m base => (m.claim base).2) m

/-- The names that claims get, in order. -/
def claimedNames : Metadata → List String → List String
  | _, [] => []
  | m, base :: bases => (m.claim base).1 :: claimedNames (m.claim base).2 bases

/-- A claim takes the name that it gets, and no other. -/
theorem handles_claim_perm (m : Metadata) (base : String) :
    (m.claim base).2.handles.toList.Perm ((m.claim base).1 :: m.handles.toList) :=
  NameSet.toList_add_perm (m.freshHandle_notMem base)

/-- **The names that are taken after claims** are those that the claims got, and those that were taken before. -/
theorem handles_afterClaims_perm (m : Metadata) (bases : List String) :
    (m.afterClaims bases).handles.toList.Perm (m.claimedNames bases ++ m.handles.toList) := by
  induction bases generalizing m with
  | nil => exact .refl _
  | cons base bases ih =>
    refine (ih (m.claim base).2).trans ?_
    refine ((m.handles_claim_perm base).append_left _).trans ?_
    exact List.perm_middle

theorem length_claimedNames (m : Metadata) (bases : List String) : (m.claimedNames bases).length = bases.length := by
  induction bases generalizing m with
  | nil => rfl
  | cons base bases ih => rw [claimedNames, List.length_cons, List.length_cons, ih]

theorem claimedNames_append (m : Metadata) (bases more : List String) :
    m.claimedNames (bases ++ more) = m.claimedNames bases ++ (m.afterClaims bases).claimedNames more := by
  induction bases generalizing m with
  | nil => rfl
  | cons base bases ih =>
    rw [List.cons_append, claimedNames, ih]
    rfl

/-- **The names of a sequence of claims**, whatever their bases are and whatever is taken before. They are distinct.
Each claim gets the least of its candidates that neither was taken before nor was got by an earlier claim; the search
for it ends, and with nothing else; and the claim takes just that name. -/
theorem names_of_claims (m : Metadata) (bases : List String) :
    (m.claimedNames bases).Nodup ∧
    ∀ earlier base later, bases = earlier ++ base :: later →
      m.claimedNames bases = m.claimedNames earlier ++ ((m.afterClaims earlier).claim base).1 ::
        ((m.afterClaims earlier).claim base).2.claimedNames later ∧
      LeastFree (m.claimedNames earlier ++ m.handles.toList) base ((m.afterClaims earlier).claim base).1 ∧
      (∃ steps ≤ earlier.length + m.handles.toList.length, ∀ steps' name,
        Tries (m.claimedNames earlier ++ m.handles.toList) base base 2 steps' name ↔
          steps' = steps ∧ name = ((m.afterClaims earlier).claim base).1) ∧
      ((m.afterClaims earlier).claim base).2.handles.toList.Perm
        (((m.afterClaims earlier).claim base).1 :: (m.afterClaims earlier).handles.toList) := by
  constructor
  · have distinct : (m.claimedNames bases ++ m.handles.toList).Nodup :=
      (m.handles_afterClaims_perm bases).nodup_iff.1 (SortedMap.nodup_keys _)
    exact (List.nodup_append.1 distinct).1
  · rintro earlier base later rfl
    have least : LeastFree (m.claimedNames earlier ++ m.handles.toList) base ((m.afterClaims earlier).claim base).1 :=
      (leastFree_freshHandle (m.afterClaims earlier) base).congr (m.handles_afterClaims_perm earlier)
    obtain ⟨steps, few, tries⟩ := least.exists_tries
    rw [List.length_append, length_claimedNames] at few
    refine ⟨m.claimedNames_append earlier (base :: later), least, ⟨steps, few, fun steps' name => ?_⟩,
      handles_claim_perm _ base⟩
    constructor
    · exact fun tries' => tries'.unique tries
    · rintro ⟨rfl, rfl⟩
      exact tries

/-- Bases that other bases become with a number behind them. -/
example : (empty "orders").claimedNames ["a", "a_2", "a", "a", "a_2", "a_2_2"] =
    ["a", "a_2", "a_3", "a_4", "a_2_2", "a_2_2_2"] := by
  decide +kernel

end Metadata

end ProcessCompiler
