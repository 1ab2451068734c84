import Mathlib.Logic.Function.Iterate
import ProcessCompiler.Expression

/-!
# The delimiters of an expression

Whether a text opens as an embedded expression, whether it closes, and what is left of it without its delimiters is
told by three functions, each of which looks at both ends of the text on its own. They agree on where the ends meet: the
opening alone has no closing and nothing inside, and delimiters inside delimiters count as what is inside.

Stripping takes one pair of delimiters, so that what is left may open again. Each time it takes three characters, or
the last two, and so it comes to a text that does not open, which it leaves as it is.

* `Expression.isUnclosed_iff`: what is not closed has the opening, and is nothing between delimiters.
* `Expression.toList_strip`: which characters are left.
* `Expression.exists_iterate_strip`: what is left after stripping so many times.
* `Expression.strip_delimiters`: the laws together.
-/

namespace ProcessCompiler.Expression

variable {text : String} {rest : List Char}

/-- Whether a text starts with what opens an embedded expression. -/
def Opens (text : String) : Prop := opening <+: text.toList

instance (text : String) : Decidable (Opens text) := inferInstanceAs (Decidable (opening <+: text.toList))

/-- A text between delimiters. -/
def embed (inner : String) : String := "#\x7b" ++ inner ++ "\x7d"

theorem toList_embed (inner : String) : (embed inner).toList = opening ++ (inner.toList ++ [closing]) := by
  rw [embed, String.toList_append, String.toList_append, List.append_assoc]
  rfl

/-! ## Both ends of a text -/

theorem inner?_eq_some_iff : inner? text = some rest ↔ text.toList = opening ++ rest := by
  unfold inner?
  split
  · next behind same =>
    rw [same, Option.some.injEq]
    exact (List.append_right_inj opening).symm
  · next other => exact iff_of_false nofun (other rest)

theorem inner?_eq_none_iff : inner? text = none ↔ ¬ Opens text := by
  rw [Option.eq_none_iff_forall_ne_some]
  constructor
  · rintro shut ⟨rest, same⟩
    exact shut rest (inner?_eq_some_iff.2 same.symm)
  · intro shut rest found
    exact shut ⟨rest, (inner?_eq_some_iff.1 found).symm⟩

theorem isEmbedded_iff : isEmbedded text = true ↔ Opens text := by
  rw [isEmbedded, Option.isSome_iff_ne_none, ne_eq, inner?_eq_none_iff, Classical.not_not]

/-- **A text is not closed** if it has the opening and is nothing between delimiters. -/
theorem isUnclosed_iff : isUnclosed text = true ↔ Opens text ∧ ¬ ∃ inner, text = embed inner := by
  unfold isUnclosed
  cases found : inner? text with
  | none => simp [inner?_eq_none_iff.1 found]
  | some rest =>
    have chars := inner?_eq_some_iff.1 found
    have opens : Opens text := ⟨rest, chars.symm⟩
    have closes : rest.getLast? = some closing ↔ ∃ inner, text = embed inner := by
      rw [List.getLast?_eq_some_iff]
      constructor
      · rintro ⟨inside, rfl⟩
        refine ⟨String.ofList inside, String.toList_injective ?_⟩
        rw [chars, toList_embed, String.toList_ofList]
      · rintro ⟨inner, rfl⟩
        rw [toList_embed] at chars
        exact ⟨inner.toList, (List.append_cancel_left chars).symm⟩
    rw [bne_iff_ne, ne_eq, closes]
    exact (and_iff_right opens).symm

/-! ## What is left between the ends -/

theorem strip_of_not_opens (shut : ¬ Opens text) : strip text = text := by
  rw [strip, inner?_eq_none_iff.2 shut]

theorem toList_strip_of_eq (chars : text.toList = opening ++ rest) : (strip text).toList = rest.dropLast := by
  rw [strip, inner?_eq_some_iff.2 chars, String.toList_ofList]

/-- **What is between delimiters is left.** -/
theorem strip_embed (inner : String) : strip (embed inner) = inner := by
  apply String.toList_injective
  rw [toList_strip_of_eq (toList_embed inner), List.dropLast_concat]

/-- A text that opens is its opening, what is left of it, and at most one character more. -/
theorem exists_eq_append_strip (opens : Opens text) :
    ∃ last : String, last.length ≤ 1 ∧ text = "#\x7b" ++ strip text ++ last := by
  obtain ⟨rest, chars⟩ := opens
  refine ⟨String.ofList rest.getLast?.toList, ?_, String.toList_injective ?_⟩
  · cases rest.getLast? <;> simp
  · rw [String.toList_append, String.toList_append, toList_strip_of_eq chars.symm, String.toList_ofList, ← chars,
      List.append_assoc]
    rcases List.eq_nil_or_concat rest with rfl | ⟨before, last, rfl⟩
    · rfl
    · simp [opening]

/-- **The characters that are left** of a text that opens: all but two in front and one behind. -/
theorem toList_strip (opens : Opens text) :
    (strip text).toList = (text.toList.drop 2).take (text.length - 3) := by
  obtain ⟨rest, chars⟩ := opens
  have two : text.length = rest.length + 2 := by
    rw [← String.length_toList, ← chars]
    simp [opening]
  rw [toList_strip_of_eq chars.symm, List.dropLast_eq_take, ← chars, two]
  rfl

theorem two_le_length (opens : Opens text) : 2 ≤ text.length := by
  rw [← String.length_toList]
  exact opens.length_le

theorem length_strip (opens : Opens text) : (strip text).length = text.length - 3 := by
  have two := two_le_length opens
  rw [← String.length_toList, toList_strip opens, List.length_take, List.length_drop, String.length_toList]
  omega

/-- **A text that does not open is left as it is**, and no other is. -/
theorem strip_eq_self_iff : strip text = text ↔ ¬ Opens text := by
  refine ⟨fun same opens => ?_, strip_of_not_opens⟩
  have two := two_le_length opens
  have shorter := length_strip opens
  rw [same] at shorter
  omega

/-- A text that opens gets shorter. -/
theorem length_strip_lt_iff : (strip text).length < text.length ↔ Opens text := by
  refine ⟨fun shorter => ?_, fun opens => ?_⟩
  · by_contra shut
    rw [strip_of_not_opens shut] at shorter
    exact Nat.lt_irrefl _ shorter
  · have two := two_le_length opens
    rw [length_strip opens]
    omega

theorem utf8ByteSize_strip_lt_iff : (strip text).utf8ByteSize < text.utf8ByteSize ↔ Opens text := by
  refine ⟨fun shorter => ?_, fun opens => ?_⟩
  · by_contra shut
    rw [strip_of_not_opens shut] at shorter
    exact Nat.lt_irrefl _ shorter
  · obtain ⟨last, -, whole⟩ := exists_eq_append_strip opens
    have sizes := congrArg String.utf8ByteSize whole
    rw [String.utf8ByteSize_append, String.utf8ByteSize_append] at sizes
    have two : "#\x7b".utf8ByteSize = 2 := rfl
    omega

/-! ## Stripping again -/

/-- **Stripping comes to an end.** There is a number of times after which it changes nothing more and before which it
changes something every time; it is no more than a third of the length, and of the characters as many are gone in front
as this takes twice and behind as it takes once. -/
theorem exists_iterate_strip (text : String) :
    ∃ n, 3 * n ≤ text.length + 1 ∧ ∀ m, (Opens (strip^[m] text) ↔ m < n) ∧
      (strip^[m] text).toList = (text.toList.drop (2 * min m n)).take (text.length - 3 * min m n) := by
  induction size : text.length using Nat.strongRecOn generalizing text with
  | ind length ih =>
    subst size
    by_cases opens : Opens text
    · obtain ⟨n, few, after⟩ := ih _ (length_strip_lt_iff.2 opens) (strip text) rfl
      have two := two_le_length opens
      rw [length_strip opens] at few after
      refine ⟨n + 1, by omega, fun m => ?_⟩
      cases m with
      | zero => simp [opens, ← String.length_toList]
      | succ m =>
        obtain ⟨opensAgain, left⟩ := after m
        rw [Function.iterate_succ_apply, opensAgain, left, toList_strip opens, List.drop_take, List.drop_drop,
          List.take_take]
        refine ⟨by omega, ?_⟩
        congr 1
        · omega
        · congr 1
          omega
    · have fixed : ∀ m, strip^[m] text = text := Function.iterate_fixed (strip_of_not_opens opens)
      exact ⟨0, Nat.zero_le _, fun m => by simp [fixed m, opens, ← String.length_toList]⟩

/-- **What stripping and the check for unclosed expressions say of a text.** The text opens as an expression if it has
the opening, and is not closed if besides it is nothing between delimiters. What is between delimiters is what stripping
leaves, whatever that is; a text is left as it is if it does not open, and is shorter otherwise, in characters and in
bytes. So stripping again and again comes to an end, and the second time changes nothing just if what was left the first
time does not open. -/
theorem strip_delimiters (text : String) :
    (isEmbedded text = true ↔ Opens text) ∧
    (isUnclosed text = true ↔ Opens text ∧ ¬ ∃ inner, text = embed inner) ∧
    (∀ inner, strip (embed inner) = inner) ∧
    (strip text = text ↔ ¬ Opens text) ∧
    ((strip text).length < text.length ↔ Opens text) ∧
    ((strip text).utf8ByteSize < text.utf8ByteSize ↔ Opens text) ∧
    (∃ n, 3 * n ≤ text.length + 1 ∧ ∀ m, (strip^[m] text = strip^[n] text ↔ n ≤ m) ∧
      (strip^[m] text).toList = (text.toList.drop (2 * min m n)).take (text.length - 3 * min m n)) ∧
    (strip (strip text) = strip text ↔ ¬ Opens (strip text)) := by
  refine ⟨isEmbedded_iff, isUnclosed_iff, strip_embed, strip_eq_self_iff, length_strip_lt_iff,
    utf8ByteSize_strip_lt_iff, ?_, strip_eq_self_iff⟩
  obtain ⟨n, few, after⟩ := exists_iterate_strip text
  refine ⟨n, few, fun m => ⟨⟨fun same => ?_, fun enough => ?_⟩, (after m).2⟩⟩
  · have shut : ¬ Opens (strip^[n] text) := (after n).1.not.2 (Nat.lt_irrefl n)
    rw [← same, (after m).1] at shut
    exact Nat.le_of_not_lt shut
  · apply String.toList_injective
    rw [(after m).2, (after n).2, Nat.min_eq_right enough, Nat.min_self]

/-- The shortest texts that open, and one that opens again inside. -/
example : ["#\x7b", "#\x7b\x7d", "#\x7b#\x7b\x7d"].map (fun text => (isUnclosed text, strip text)) =
    [(true, ""), (false, ""), (false, "#\x7b")] := by decide +kernel

end ProcessCompiler.Expression
