import Mathlib.Data.List.TakeWhile
import ProcessCompiler.Expression.References

/-!
# The pieces of an expression

An expression is cut from left to right into string literals, numbers, names, blanks and single other characters. The
first character of a piece says what it is, and a piece goes on for as long as it can: nothing behind it continues it.
A literal ends with the first quote like the one that opens it that no backslash takes away, or with the text.

* `Cut`: the pieces that a text is cut into.
* `Cut.flatMap_chars`: the pieces together are the text.
* `exists_cut`, `Cut.unique`: every text is cut into pieces, and in one way only.
-/

namespace ProcessCompiler.Expression

open Text

/-! ## Kinds of characters -/

/-- What a character is at the start of a piece. -/
inductive Kind where
  | quote
  | digit
  | letter
  | blank
  | other
  deriving DecidableEq

/-- The kind of a character. -/
def Kind.ofChar (c : Char) : Kind :=
  if opensLiteral c then .quote
  else if c.isDigit then .digit
  else if startsName c then .letter
  else if isBlank c then .blank
  else .other

/-- What goes on with a piece of a kind. A literal goes on by other rules. -/
def Kind.continues : Kind → Char → Bool
  | .digit => continuesNumber
  | .letter => continuesName
  | .blank => isBlank
  | .quote | .other => fun _ => false

namespace Kind

variable {c : Char}

theorem ofChar_of_quote (h : opensLiteral c = true) : ofChar c = .quote := if_pos h

theorem ofChar_of_digit (h : c.isDigit = true) : ofChar c = .digit := by
  have notQuote : opensLiteral c ≠ true := by
    simp only [opensLiteral, ne_eq, Bool.or_eq_true, decide_eq_true_eq]
    rintro (rfl | rfl) <;> cases h
  rw [ofChar, if_neg notQuote, if_pos h]

/-- Letters come behind the digits and the quotes. -/
theorem ofChar_of_letter (h : startsName c = true) : ofChar c = .letter := by
  have low : 0x41 ≤ c.toNat := by
    simp only [startsName, Bool.or_eq_true, decide_eq_true_eq] at h
    rcases h with letter | rfl
    · refine Nat.le_of_not_lt fun below => ?_
      rw [isAlphabetic, alphabeticRanges, Ranges.has, if_pos below] at letter
      cases letter
    · decide
  have notQuote : opensLiteral c ≠ true := by
    simp only [opensLiteral, ne_eq, Bool.or_eq_true, decide_eq_true_eq]
    rintro (rfl | rfl) <;> exact absurd low (by decide)
  have notDigit : c.isDigit ≠ true := by
    simp only [Char.isDigit, ne_eq, Bool.and_eq_true, decide_eq_true_eq, not_and]
    intro _ high
    have : c.toNat ≤ 57 := high
    omega
  rw [ofChar, if_neg notQuote, if_neg notDigit, if_pos h]

theorem ofChar_of_blank (h : isBlank c = true) : ofChar c = .blank := by
  have all : ∀ n ∈ blankRanges.flatMap (fun r => List.range' r.1 (r.2 + 1 - r.1)), ofChar (Char.ofNat n) = .blank := by
    decide +kernel
  obtain ⟨r, listed, low, high⟩ := (Ranges.has_iff blankRanges_ascending).1 h
  have among := all c.toNat (List.mem_flatMap.2 ⟨r, listed, List.mem_range'_1.2 ⟨low, by omega⟩⟩)
  rwa [Char.ofNat_toNat] at among

theorem isBlank_eq_false (h : ofChar c ≠ .blank) : isBlank c = false :=
  Bool.eq_false_iff.2 fun blank => h (ofChar_of_blank blank)

end Kind

/-! ## Pieces -/

/-- A piece of an expression. -/
inductive Piece where
  | literal (chars : List Char)
  | number (chars : List Char)
  | name (chars : List Char)
  | blanks (chars : List Char)
  | other (c : Char)
  deriving DecidableEq

namespace Piece

/-- The characters of a piece. -/
def chars : Piece → List Char
  | .literal cs | .number cs | .name cs | .blanks cs => cs
  | .other c => [c]

/-- The kind of the first character of a piece. -/
def kind : Piece → Kind
  | .literal _ => .quote
  | .number _ => .digit
  | .name _ => .letter
  | .blanks _ => .blank
  | .other _ => .other

protected theorem ext {p p' : Piece} (kinds : p.kind = p'.kind) (same : p.chars = p'.chars) : p = p' := by
  cases p <;> cases p' <;> cases kinds <;> cases same <;> rfl

theorem exists_literal {p : Piece} (literal : p.kind = .quote) : ∃ cs, p = .literal cs := by
  cases p <;> cases literal
  exact ⟨_, rfl⟩

theorem exists_blanks {p : Piece} (blanks : p.kind = .blank) : ∃ cs, p = .blanks cs := by
  cases p <;> cases blanks
  exact ⟨_, rfl⟩

end Piece

/-- **What can stand in a literal without ending it**: characters that are neither the quote nor a backslash, and
backslashes, each with the character that it takes away. -/
inductive Inside (quote : Char) : List Char → Prop
  | nil : Inside quote []
  | plain {c : Char} {cs : List Char} : c ≠ '\\' → c ≠ quote → Inside quote cs → Inside quote (c :: cs)
  | escaped {c : Char} {cs : List Char} : Inside quote cs → Inside quote ('\\' :: c :: cs)

/-- Nothing at the front of the characters goes on with what stands before them. -/
def Stops (continues : Char → Bool) (rest : List Char) : Prop := ∀ c, rest.head? = some c → continues c = false

/-- **A piece that is cut off from what stands behind it.** -/
inductive First : Piece → List Char → Prop
  | closed {quote : Char} {inside rest : List Char} : opensLiteral quote = true → Inside quote inside →
      First (.literal (quote :: (inside ++ [quote]))) rest
  | unclosed {quote : Char} {inside tail : List Char} : opensLiteral quote = true → Inside quote inside →
      tail = [] ∨ tail = ['\\'] → First (.literal (quote :: (inside ++ tail))) []
  | number {c : Char} {more rest : List Char} : c.isDigit = true → (∀ d ∈ more, continuesNumber d = true) →
      Stops continuesNumber rest → First (.number (c :: more)) rest
  | name {c : Char} {more rest : List Char} : startsName c = true → (∀ d ∈ more, continuesName d = true) →
      Stops continuesName rest → First (.name (c :: more)) rest
  | blanks {c : Char} {more rest : List Char} : isBlank c = true → (∀ d ∈ more, isBlank d = true) →
      Stops isBlank rest → First (.blanks (c :: more)) rest
  | other {c : Char} {rest : List Char} : Kind.ofChar c = .other → First (.other c) rest

/-- **The pieces that a text is cut into**, from left to right. -/
inductive Cut : List Char → List Piece → Prop
  | done : Cut [] []
  | cons {p : Piece} {rest : List Char} {pieces : List Piece} : First p rest → Cut rest pieces →
      Cut (p.chars ++ rest) (p :: pieces)

section Pieces

variable {p p' : Piece} {quote : Char} {rest rest' cs : List Char} {pieces pieces' : List Piece}

/-- A piece is not empty, and starts with a character of its kind. -/
theorem First.exists_chars (h : First p rest) : ∃ c more, p.chars = c :: more ∧ Kind.ofChar c = p.kind := by
  cases h with
  | closed opens _ => exact ⟨_, _, rfl, Kind.ofChar_of_quote opens⟩
  | unclosed opens _ _ => exact ⟨_, _, rfl, Kind.ofChar_of_quote opens⟩
  | number digit _ _ => exact ⟨_, _, rfl, Kind.ofChar_of_digit digit⟩
  | name letter _ _ => exact ⟨_, _, rfl, Kind.ofChar_of_letter letter⟩
  | blanks blank _ _ => exact ⟨_, _, rfl, Kind.ofChar_of_blank blank⟩
  | other kind => exact ⟨_, [], rfl, kind⟩

/-- **The pieces together are the text.** -/
theorem Cut.flatMap_chars (h : Cut cs pieces) : pieces.flatMap Piece.chars = cs := by
  induction h with
  | done => rfl
  | cons _ _ ih => rw [List.flatMap_cons, ih]

/-! ## One way only -/

/-- What goes on in the same way for as long as it can ends at the same place. -/
theorem eq_of_stops {continues : Char → Bool} {more more' : List Char} (all : ∀ d ∈ more, continues d = true)
    (stops : Stops continues rest) (all' : ∀ d ∈ more', continues d = true) (stops' : Stops continues rest')
    (same : more ++ rest = more' ++ rest') : more = more' ∧ rest = rest' := by
  have front {more rest : List Char} (all : ∀ d ∈ more, continues d = true) (stops : Stops continues rest) :
      (more ++ rest).takeWhile continues = more := by
    rw [List.takeWhile_append_of_pos all]
    cases rest with
    | nil => simp
    | cons c rest => simp [stops c rfl]
  have equal : more = more' := by rw [← front all stops, same, front all' stops']
  exact ⟨equal, List.append_cancel_left (equal ▸ same)⟩

/-- How a text goes on where a literal ends: with its quote, or not at all but for a backslash. -/
def Ends (quote : Char) (tail : List Char) : Prop := tail = [] ∨ tail = ['\\'] ∨ ∃ rest, tail = quote :: rest

/-- A literal that goes on for as long as it can ends at the same place. -/
theorem Inside.eq_of_ends {inside inside' tail tail' : List Char} (notSlash : quote ≠ '\\')
    (h : Inside quote inside) (h' : Inside quote inside') (ends : Ends quote tail) (ends' : Ends quote tail')
    (same : inside ++ tail = inside' ++ tail') : inside = inside' ∧ tail = tail' := by
  -- where one of the two ends, the other cannot go on
  have stop {c : Char} {cs tail tail' : List Char} (h : Inside quote (c :: cs)) (ends : Ends quote tail) :
      tail ≠ c :: cs ++ tail' := by
    rintro rfl
    rcases ends with none | slash | ⟨rest, closed⟩
    · cases none
    · cases h with
      | plain differ => exact differ (List.cons.inj slash).1
      | escaped => simp at slash
    · cases h with
      | plain _ differ => exact differ (List.cons.inj closed).1
      | escaped => exact notSlash (List.cons.inj closed).1.symm
  induction h generalizing inside' with
  | nil =>
    cases inside' with
    | nil => exact ⟨rfl, same⟩
    | cons c cs => exact absurd same (stop h' ends)
  | @plain c cs slash differ inner ih =>
    cases h' with
    | nil => exact absurd same.symm (stop (.plain slash differ inner) ends')
    | plain _ _ inner' =>
      obtain ⟨rfl, behind⟩ := List.cons.inj same
      obtain ⟨rfl, rfl⟩ := ih inner' behind
      exact ⟨rfl, rfl⟩
    | escaped => exact absurd (List.cons.inj same).1 slash
  | @escaped c cs inner ih =>
    cases h' with
    | nil => exact absurd same.symm (stop (.escaped inner) ends')
    | plain slash => exact absurd (List.cons.inj same).1.symm slash
    | escaped inner' =>
      simp only [List.cons_append, List.cons.injEq, true_and] at same
      obtain ⟨rfl, behind⟩ := same
      obtain ⟨rfl, rfl⟩ := ih inner' behind
      exact ⟨rfl, rfl⟩

/-- A literal and what stands behind it: what is inside, and how the text goes on from there. -/
theorem First.exists_inside (h : First (.literal cs) rest) :
    ∃ quote inside tail, opensLiteral quote = true ∧ cs = quote :: (inside ++ tail) ∧ Inside quote inside ∧
      ((tail = [quote]) ∨ ((tail = [] ∨ tail = ['\\']) ∧ rest = [])) := by
  cases h with
  | closed opens inside => exact ⟨_, _, _, opens, rfl, inside, .inl rfl⟩
  | unclosed opens inside ends => exact ⟨_, _, _, opens, rfl, inside, .inr ⟨ends, rfl⟩⟩

/-- Two literals at the front of the same text are the same. -/
theorem First.literal_unique {cs' : List Char} (h : First (.literal cs) rest) (h' : First (.literal cs') rest')
    (same : cs ++ rest = cs' ++ rest') : cs = cs' ∧ rest = rest' := by
  obtain ⟨quote, inside, tail, opens, rfl, inner, finish⟩ := h.exists_inside
  obtain ⟨quote', inside', tail', -, rfl, inner', finish'⟩ := h'.exists_inside
  simp only [List.cons_append, List.append_assoc, List.cons.injEq] at same
  obtain ⟨rfl, same⟩ := same
  have notSlash : quote ≠ '\\' := by rintro rfl; cases opens
  have ends {tail rest : List Char} (finish : tail = [quote] ∨ (tail = [] ∨ tail = ['\\']) ∧ rest = []) :
      Ends quote (tail ++ rest) := by
    rcases finish with rfl | ⟨rfl | rfl, rfl⟩
    · exact .inr (.inr ⟨_, rfl⟩)
    · exact .inl rfl
    · exact .inr (.inl rfl)
  obtain ⟨rfl, behind⟩ := inner.eq_of_ends notSlash inner' (ends finish) (ends finish') same
  suffices together : tail = tail' ∧ rest = rest' by rw [together.1, together.2]; exact ⟨rfl, rfl⟩
  rcases finish with rfl | ⟨opened, rfl⟩ <;> rcases finish' with rfl | ⟨opened', rfl⟩
  · simpa using behind
  · rcases opened' with rfl | rfl
    · cases behind
    · exact absurd (List.cons.inj behind).1 notSlash
  · rcases opened with rfl | rfl
    · cases behind
    · exact absurd (List.cons.inj behind).1.symm notSlash
  · simpa using behind

/-- A piece that is no literal: its kind says what goes on with it, up to where the piece stops. -/
theorem First.exists_run (h : First p rest) (notLiteral : p.kind ≠ .quote) :
    ∃ c more, p.chars = c :: more ∧ (∀ d ∈ more, p.kind.continues d = true) ∧ Stops p.kind.continues rest := by
  cases h with
  | closed | unclosed => exact absurd rfl notLiteral
  | number _ all stops | name _ all stops | blanks _ all stops => exact ⟨_, _, rfl, all, stops⟩
  | other => exact ⟨_, [], rfl, nofun, fun _ _ => rfl⟩

/-- **The piece at the front of a text** is the only one. -/
theorem First.unique (h : First p rest) (h' : First p' rest') (same : p.chars ++ rest = p'.chars ++ rest') :
    p = p' ∧ rest = rest' := by
  -- both start with the same character, so they are of one kind
  have kinds : p.kind = p'.kind := by
    obtain ⟨c, more, chars, kind⟩ := h.exists_chars
    obtain ⟨c', more', chars', kind'⟩ := h'.exists_chars
    rw [chars, chars'] at same
    rw [← kind, ← kind', (List.cons.inj same).1]
  suffices together : p.chars = p'.chars ∧ rest = rest' from ⟨Piece.ext kinds together.1, together.2⟩
  by_cases literal : p.kind = .quote
  · obtain ⟨cs, rfl⟩ := Piece.exists_literal literal
    obtain ⟨cs', rfl⟩ := Piece.exists_literal (kinds ▸ literal)
    exact h.literal_unique h' same
  · obtain ⟨c, more, chars, all, stops⟩ := h.exists_run literal
    obtain ⟨c', more', chars', all', stops'⟩ := h'.exists_run (kinds ▸ literal)
    rw [← kinds] at all' stops'
    simp only [chars, chars', List.cons_append, List.cons.injEq] at same ⊢
    obtain ⟨rfl, same⟩ := same
    obtain ⟨rfl, rfl⟩ := eq_of_stops all stops all' stops' same
    exact ⟨⟨rfl, rfl⟩, rfl⟩

/-- **A text is cut into pieces in one way only.** -/
theorem Cut.unique (h : Cut cs pieces) (h' : Cut cs pieces') : pieces = pieces' := by
  induction h generalizing pieces' with
  | done =>
    generalize text : [] = cs at h'
    cases h' with
    | done => rfl
    | cons first _ =>
      obtain ⟨c, more, chars, -⟩ := first.exists_chars
      rw [chars] at text
      cases text
  | @cons p rest pieces first _ ih =>
    generalize text : p.chars ++ rest = cs at h'
    cases h' with
    | done =>
      obtain ⟨c, more, chars, -⟩ := first.exists_chars
      rw [chars] at text
      cases text
    | cons first' cut' =>
      obtain ⟨rfl, rfl⟩ := first.unique first' text
      rw [ih cut']

/-! ## At least one way -/

/-- What goes on in the same way goes on up to some place. -/
theorem exists_stops (continues : Char → Bool) (cs : List Char) :
    ∃ more rest, cs = more ++ rest ∧ (∀ d ∈ more, continues d = true) ∧ Stops continues rest := by
  refine ⟨cs.takeWhile continues, cs.dropWhile continues, List.takeWhile_append_dropWhile.symm,
    fun d among => ?_, fun c front => ?_⟩
  · exact List.mem_takeWhile_imp among
  · have := List.head?_dropWhile_not continues cs
    simpa [front] using this

/-- What follows a quote has a first quote that no backslash takes away, or none up to the end. -/
theorem exists_ends (quote : Char) :
    ∀ cs, ∃ inside tail, cs = inside ++ tail ∧ Inside quote inside ∧ Ends quote tail
  | [] => ⟨[], [], rfl, .nil, .inl rfl⟩
  | [c] => by
    by_cases slash : c = '\\'
    · exact ⟨[], [c], rfl, .nil, .inr (.inl (by rw [slash]))⟩
    by_cases closes : c = quote
    · exact ⟨[], [c], rfl, .nil, .inr (.inr ⟨[], by rw [closes]⟩)⟩
    exact ⟨[c], [], rfl, .plain slash closes .nil, .inl rfl⟩
  | c :: d :: cs => by
    by_cases slash : c = '\\'
    · obtain ⟨inside, tail, rfl, inner, ends⟩ := exists_ends quote cs
      exact ⟨c :: d :: inside, tail, rfl, slash ▸ inner.escaped, ends⟩
    by_cases closes : c = quote
    · exact ⟨[], _, rfl, .nil, .inr (.inr ⟨_, by rw [closes]⟩)⟩
    obtain ⟨inside, tail, text, inner, ends⟩ := exists_ends quote (d :: cs)
    exact ⟨c :: inside, tail, by rw [text]; rfl, .plain slash closes inner, ends⟩

/-- A text that is not empty has a piece at its front. -/
theorem exists_first (c : Char) (cs : List Char) : ∃ p rest, c :: cs = p.chars ++ rest ∧ First p rest := by
  by_cases quote : opensLiteral c = true
  · obtain ⟨inside, tail, rfl, inner, rfl | rfl | ⟨rest, rfl⟩⟩ := exists_ends c cs
    · exact ⟨_, [], (List.append_nil _).symm, .unclosed quote inner (.inl rfl)⟩
    · exact ⟨_, [], (List.append_nil _).symm, .unclosed quote inner (.inr rfl)⟩
    · exact ⟨_, rest, by simp [Piece.chars], .closed quote inner⟩
  by_cases digit : c.isDigit = true
  · obtain ⟨more, rest, rfl, all, stops⟩ := exists_stops continuesNumber cs
    exact ⟨_, rest, rfl, .number digit all stops⟩
  by_cases letter : startsName c = true
  · obtain ⟨more, rest, rfl, all, stops⟩ := exists_stops continuesName cs
    exact ⟨_, rest, rfl, .name letter all stops⟩
  by_cases blank : isBlank c = true
  · obtain ⟨more, rest, rfl, all, stops⟩ := exists_stops isBlank cs
    exact ⟨_, rest, rfl, .blanks blank all stops⟩
  exact ⟨_, cs, rfl, .other (by simp [Kind.ofChar, quote, digit, letter, blank])⟩

/-- **Every text is cut into pieces**, also one that ends in a literal or behind a backslash. -/
theorem exists_cut (cs : List Char) : ∃ pieces, Cut cs pieces := by
  induction length : cs.length using Nat.strongRecOn generalizing cs with
  | _ n ih =>
    cases cs with
    | nil => exact ⟨[], .done⟩
    | cons c cs =>
      obtain ⟨p, rest, text, first⟩ := exists_first c cs
      obtain ⟨d, more, chars, -⟩ := first.exists_chars
      have shorter : rest.length < n := by
        rw [← length, text, chars, List.length_append, List.length_cons]
        omega
      obtain ⟨pieces, cut⟩ := ih _ shorter rest rfl
      exact ⟨p :: pieces, text ▸ cut.cons first⟩

end Pieces

end ProcessCompiler.Expression
