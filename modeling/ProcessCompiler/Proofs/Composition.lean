import ProcessCompiler.Proofs.References

/-!
# What a sum of expressions reads

Behind a text the scan keeps nothing of it but the names that it found, unless the text ends in a literal: a plus sign
between blanks finishes a number or a name, is no opening bracket, and hides a point in front of it. So a sum reads what
its summands read one after the other, each name once.

* `closesLiterals`: whether every literal that a text opens is closed in it.
* `scan_append_sum`: the scan of a sum is that of the first summand and then that of the second.
* `references_sum`: the variables of a sum are those of its summands.
-/

namespace ProcessCompiler.Expression

open Text

/-! ## Literals that are closed -/

/-- Where a text stands with its literals: in none, in one with a quote, or in one behind a backslash. -/
inductive Standing where
  | outside
  | inside (quote : Char)
  | escaped (quote : Char)
  deriving DecidableEq

/-- Where the text stands behind one more character. -/
def Standing.after : Standing → Char → Standing
  | .outside, c => if opensLiteral c then .inside c else .outside
  | .inside quote, c => if c = '\\' then .escaped quote else if c = quote then .outside else .inside quote
  | .escaped quote, _ => .inside quote

/-- **Whether every literal that a text opens is closed in it.** -/
def closesLiterals (text : String) : Bool := text.toList.foldl Standing.after .outside = .outside

section Sums

variable {member : Bool} {found : List String} {cs rest more : List Char} {p : Piece} {pieces : List Piece}

theorem foldl_after_inside {quote : Char} {inside : List Char} (h : Inside quote inside) :
    inside.foldl Standing.after (.inside quote) = .inside quote := by
  induction h with
  | nil => rfl
  | plain slash differ _ ih => rw [List.foldl_cons, Standing.after, if_neg slash, if_neg differ, ih]
  | escaped _ ih => rw [List.foldl_cons, List.foldl_cons, Standing.after, if_pos rfl, Standing.after, ih]

/-- Characters that are no quotes open no literal. -/
theorem foldl_after_outside (plain : ∀ c ∈ cs, opensLiteral c = false) :
    cs.foldl Standing.after .outside = .outside := by
  induction cs with
  | nil => rfl
  | cons c cs ih =>
    obtain ⟨first, others⟩ := List.forall_mem_cons.1 plain
    rw [List.foldl_cons, Standing.after, first]
    exact ih others

/-- A quote goes on with no number, no name and no blanks. -/
theorem opensLiteral_eq_false {c : Char}
    (continues : continuesNumber c = true ∨ continuesName c = true ∨ isBlank c = true) : opensLiteral c = false := by
  refine Bool.eq_false_iff.2 fun opens => ?_
  simp only [opensLiteral, Bool.or_eq_true, decide_eq_true_eq] at opens
  rcases opens with rfl | rfl <;> revert continues <;> decide

/-- A piece that is no literal has no quotes in it. -/
theorem First.plain (first : First p rest) (notLiteral : p.kind ≠ .quote) : ∀ c ∈ p.chars, opensLiteral c = false := by
  obtain ⟨c, cs, chars, all, -⟩ := first.exists_run notLiteral
  obtain ⟨c', cs', chars', kind⟩ := first.exists_chars
  rw [chars] at chars'
  cases chars'
  rw [chars, List.forall_mem_cons]
  refine ⟨Bool.eq_false_iff.2 fun opens => notLiteral ?_, fun d among => opensLiteral_eq_false ?_⟩
  · rw [← kind, Kind.ofChar_of_quote opens]
  · have continues := all d among
    cases p with
    | literal => exact absurd rfl notLiteral
    | number => exact .inl continues
    | name => exact .inr (.inl continues)
    | blanks => exact .inr (.inr continues)
    | other => cases continues

/-- Behind the quote of a literal and what is inside, the text stands in the literal. -/
theorem foldl_after_literal {quote : Char} {inside tail : List Char} (opens : opensLiteral quote = true)
    (h : Inside quote inside) :
    (quote :: (inside ++ tail)).foldl Standing.after .outside = tail.foldl Standing.after (.inside quote) := by
  rw [List.foldl_cons, List.foldl_append, Standing.after, if_pos opens, foldl_after_inside h]

/-- Where all literals are closed, the text stands in none behind its first piece. -/
theorem First.outside (first : First p rest)
    (closed : (p.chars ++ rest).foldl Standing.after .outside = .outside) :
    p.chars.foldl Standing.after .outside = .outside := by
  cases first with
  | @closed quote _ _ opens inside =>
    have notSlash : quote ≠ '\\' := by rintro rfl; cases opens
    rw [Piece.chars, foldl_after_literal opens inside, List.foldl_cons, Standing.after, if_neg notSlash, if_pos rfl]
    rfl
  | unclosed opens inside ends => rwa [List.append_nil] at closed
  | number digit all stops => exact foldl_after_outside (First.plain (.number digit all stops) Kind.noConfusion)
  | name letter all stops => exact foldl_after_outside (First.plain (.name letter all stops) Kind.noConfusion)
  | blanks blank all stops => exact foldl_after_outside (First.plain (.blanks blank all stops) Kind.noConfusion)
  | other kind => exact foldl_after_outside (First.plain (First.other kind : First _ rest) Kind.noConfusion)

/-! ## Behind a text -/

theorem Stops.append {continues : Char → Bool} {c : Char} (stops : Stops continues rest) (stop : continues c = false) :
    Stops continues (rest ++ c :: more) := by
  cases rest with
  | nil =>
    intro d front
    cases front
    exact stop
  | cons d rest => exact stops

/-- A closed piece that is not blanks stays the same when a blank and more come behind the text. -/
theorem First.append_blank (first : First p rest) (outside : p.chars.foldl Standing.after .outside = .outside)
    (solid : p.kind ≠ .blank) : First p (rest ++ ' ' :: more) := by
  cases first with
  | closed opens inside => exact .closed opens inside
  | unclosed opens inside ends =>
    rw [Piece.chars, foldl_after_literal opens inside] at outside
    rcases ends with rfl | rfl
    · cases outside
    · cases outside
  | number digit all stops => exact .number digit all (stops.append (by decide))
  | name letter all stops => exact .name letter all (stops.append (by decide))
  | blanks => exact absurd rfl solid
  | other kind => exact .other kind

/-- A plus sign behind a text calls nothing in it. -/
theorem isCalled_append_sum : isCalled (rest ++ ' ' :: '+' :: more) = isCalled rest := by
  have blank : isBlank ' ' = true := by decide
  have solid : isBlank '+' = false := by decide
  simp only [isCalled, List.dropWhile_append, List.dropWhile_cons, blank, solid, if_true, List.isEmpty_iff]
  split
  · next none => rw [none]; rfl
  · next some => rw [List.head?_append_of_ne_nil _ some]

/-- **The scan of a sum** is that of the first summand and then that of the second, which starts with what the first
found. -/
theorem scan_append_sum (cut : Cut cs pieces) (closed : cs.foldl Standing.after .outside = .outside) :
    scan .between member found (cs ++ ' ' :: '+' :: ' ' :: more) =
      scan .between false (scan .between member found cs) more := by
  induction cut generalizing member found with
  | done => rfl
  | @cons p rest pieces first _ ih =>
    have outside := first.outside closed
    rw [List.foldl_append, outside] at closed
    rw [List.append_assoc]
    by_cases blanks : p.kind = .blank
    · -- blanks at the end of the text go on into the sum, so they are no piece of it
      cases first with
      | @blanks c cs _ blank all _ =>
        have every : ∀ d ∈ c :: cs, isBlank d = true := List.forall_mem_cons.2 ⟨blank, all⟩
        rw [Piece.chars, scan_blanks_append every, scan_blanks_append every, ih closed]
      | _ => cases blanks
    · have same : foundBehind member found (rest ++ ' ' :: '+' :: ' ' :: more) p = foundBehind member found rest p := by
        cases p with
        | name => simp only [foundBehind, note, isCalled_append_sum]
        | _ => rfl
      rw [scan_first (first.append_blank outside blanks), scan_first first, same, ih closed]

/-! ## Names found before -/

theorem eraseDups_filter {α : Type} [BEq α] [LawfulBEq α] (keep : α → Bool) (as : List α) :
    (as.filter keep).eraseDups = as.eraseDups.filter keep := by
  induction length : as.length using Nat.strongRecOn generalizing as with
  | _ n ih =>
    cases as with
    | nil => rfl
    | cons a as =>
      have shorter : (as.filter fun b => !b == a).length < n := by
        rw [← length, List.length_cons]
        exact Nat.lt_succ_of_le (List.length_filter_le ..)
      have others := ih _ shorter _ rfl
      rw [List.eraseDups_cons]
      by_cases kept : keep a = true
      · rw [List.filter_cons_of_pos kept, List.filter_cons_of_pos kept, List.eraseDups_cons, List.filter_comm, others]
      · rw [List.filter_cons_of_neg kept, List.filter_cons_of_neg kept, ← others, List.filter_filter]
        congr 1
        refine List.filter_congr fun b _ => ?_
        by_cases same : b = a
        · simpa [same] using kept
        · simp [same]

/-- What is found behind other names are the variables of the text that are not among these. -/
theorem scan_eq_append (found : List String) (text : String) :
    scan .between false found text.toList = found ++ (references text).filter (!found.contains ·) := by
  obtain ⟨pieces, cut⟩ := exists_cut text.toList
  have walk (found : List String) :
      scan .between false found text.toList = adjoin found (reads none (significant pieces)) :=
    scan_eq_of_cut none rfl cut
  rw [references, walk, walk, adjoin_eq, adjoin_nil, eraseDups_filter]

/-- **The variables of a sum are those of its summands**: first those of the one, in their order, then those of the
other that are not among them, in theirs. The literals of the first summand must be closed in it, or the plus sign and
what follows would be part of one. -/
theorem references_sum {a : String} (closed : closesLiterals a = true) (b : String) :
    references (a ++ " + " ++ b) = references a ++ (references b).filter (· ∉ references a) := by
  obtain ⟨pieces, cut⟩ := exists_cut a.toList
  have text : (a ++ " + " ++ b).toList = a.toList ++ ' ' :: '+' :: ' ' :: b.toList := by simp
  have split : scan .between false [] (a.toList ++ ' ' :: '+' :: ' ' :: b.toList) =
      scan .between false (scan .between false [] a.toList) b.toList :=
    scan_append_sum cut (of_decide_eq_true closed)
  rw [references, text, split, scan_eq_append]
  congr 1
  refine List.filter_congr fun name _ => ?_
  rw [references, List.contains_eq_mem, decide_not]

theorem references_sum_quoted : closesLiterals "order.total > size(tax) and 'it\\'s' != rate." = true ∧
    references ("order.total > size(tax) and 'it\\'s' != rate." ++ " + " ++ "(order - x) * tax 'y") =
      ["order", "tax", "rate"] ++ ["x"] := by
  have closed : closesLiterals "order.total > size(tax) and 'it\\'s' != rate." = true := by decide +kernel
  have first : references "order.total > size(tax) and 'it\\'s' != rate." = ["order", "tax", "rate"] := by
    decide +kernel
  have second : references "(order - x) * tax 'y" = ["order", "x", "tax"] := by decide +kernel
  refine ⟨closed, (references_sum closed _).trans ?_⟩
  rw [first, second]
  decide

/-- A literal that is left open swallows the second summand. -/
example : references ("'" ++ " + " ++ "x") = [] ∧ references "x" = ["x"] := by decide +kernel

end Sums

end ProcessCompiler.Expression
