import Mathlib.Data.List.Dedup
import ProcessCompiler.Proofs.Pieces

/-!
# What an expression reads, piece by piece

The scan for the variables of an expression never builds the pieces that the text is cut into. It carries whether a
point is the last thing before the piece it is in, and looks ahead over blanks for an opening bracket. Step by step it
does what the pieces say: a name is read when it is no keyword and, blanks apart, no point stands before it and no
opening bracket behind it.

* `readNames`: what is read, said about the pieces.
* `isCalled_eq_of_cut`: the look ahead finds the next piece.
* `scan_eq_of_cut`: the scan of a text is a walk over its pieces.
* `references_eq_readNames`: the variables that an expression reads are the ones its pieces say.
-/

namespace ProcessCompiler.Expression

open Text

/-! ## What the pieces say -/

/-- The pieces that are not blanks. -/
def significant (pieces : List Piece) : List Piece := pieces.filter (·.kind ≠ .blank)

/-- The name that a piece reads between two others. -/
def Piece.read? (before after : Option Piece) : Piece → Option String
  | .name cs =>
    if before = some (.other '.') ∨ after = some (.other '(') ∨ String.ofList cs ∈ keywords then none
    else some (String.ofList cs)
  | _ => none

/-- The names that pieces read, the first of them behind the piece `before`. -/
def reads : Option Piece → List Piece → List String
  | _, [] => []
  | before, p :: pieces => (p.read? before pieces.head?).toList ++ reads (some p) pieces

/-- **The names that a cut text reads**: each once, in the order of their first use. -/
def readNames (pieces : List Piece) : List String := (reads none (significant pieces)).eraseDups

/-! ## Adding names -/

/-- Adds names, each unless it is there already. -/
def adjoin (found : List String) : List String → List String
  | [] => found
  | name :: names => adjoin (if name ∈ found then found else found ++ [name]) names

theorem adjoin_append (found names names' : List String) :
    adjoin found (names ++ names') = adjoin (adjoin found names) names' := by
  induction names generalizing found with
  | nil => rfl
  | cons name names ih => exact ih _

/-- Adding names drops the ones that are there and the repeated ones. -/
theorem adjoin_eq (found names : List String) :
    adjoin found names = found ++ (names.filter (!found.contains ·)).eraseDups := by
  induction names generalizing found with
  | nil => simp [adjoin]
  | cons name names ih =>
    by_cases known : name ∈ found
    · simp [adjoin, known, ih]
    · rw [adjoin, if_neg known, ih, List.filter_cons_of_pos (by simpa using known), List.eraseDups_cons,
        List.filter_filter, List.append_assoc, List.singleton_append]
      congr 3
      refine List.filter_congr fun other _ => ?_
      by_cases same : other = name <;> simp [same]

theorem adjoin_nil (names : List String) : adjoin [] names = names.eraseDups := by
  rw [adjoin_eq]
  simp

section Scan

variable {member : Bool} {found : List String} {cs rest more : List Char} {p : Piece} {pieces : List Piece} {c : Char}

/-! ## Looking ahead -/

/-- **The look ahead finds the next piece** that is not only blanks. -/
theorem isCalled_eq_of_cut (h : Cut cs pieces) :
    isCalled cs = ((significant pieces).head? == some (.other '(')) := by
  induction h with
  | done => rfl
  | @cons p rest pieces first _ ih =>
    obtain ⟨c, more, chars, kind⟩ := first.exists_chars
    by_cases blanks : p.kind = .blank
    · -- the look ahead goes over blanks
      obtain ⟨cs, rfl⟩ := Piece.exists_blanks blanks
      cases first with | blanks blank all _ => ?_
      simpa [isCalled, significant, Piece.kind, Piece.chars, blank, List.dropWhile_append_of_pos all] using ih
    · have solid : isBlank c = false := Kind.isBlank_eq_false (kind ▸ blanks)
      have bracket : c = '(' ↔ p = .other '(' := by
        constructor
        · rintro rfl
          cases p <;> cases kind
          cases chars
          rfl
        · rintro rfl
          cases chars
          rfl
      rw [Bool.eq_iff_iff]
      simp [isCalled, significant, chars, solid, blanks, bracket]

/-! ## One character -/

/-- The first character of a piece says what the scan is in. -/
theorem scan_between_cons (c : Char) (cs : List Char) :
    scan .between member found (c :: cs) =
      match Kind.ofChar c with
      | .quote => scan (.literal c) member found cs
      | .digit => scan .number member found cs
      | .letter => scan (.name [c]) member found cs
      | .blank | .other => scan .between (afterPoint member c) found cs := by
  rw [scan]
  unfold Mode.ofChar Kind.ofChar
  split_ifs <;> rfl

theorem scan_literal_cons (quote : Char) :
    scan (.literal quote) member found (c :: cs) =
      if c = '\\' then scan (.escaped quote) member found cs
      else if c = quote then scan .between false found cs
      else scan (.literal quote) member found cs :=
  rfl

theorem scan_escaped_cons (quote : Char) :
    scan (.escaped quote) member found (c :: cs) = scan (.literal quote) member found cs :=
  rfl

/-- Behind a number the scan is between pieces again. -/
theorem scan_number_cons :
    scan .number member found (c :: cs) =
      if continuesNumber c then scan .number member found cs else scan .between false found (c :: cs) :=
  rfl

/-- Behind a name it is noted, and the scan is between pieces again. -/
theorem scan_name_cons (reversed : List Char) :
    scan (.name reversed) member found (c :: cs) =
      if continuesName c then scan (.name (c :: reversed)) member found cs
      else scan .between false (note found member (String.ofList reversed.reverse) (c :: cs)) (c :: cs) :=
  rfl

/-! ## Inside a piece -/

/-- What can stand in a literal keeps the scan in it. -/
theorem scan_inside {quote : Char} {inside : List Char} (h : Inside quote inside) :
    scan (.literal quote) member found (inside ++ rest) = scan (.literal quote) member found rest := by
  induction h with
  | nil => rfl
  | plain slash differ _ ih => rw [List.cons_append, scan_literal_cons, if_neg slash, if_neg differ, ih]
  | escaped _ ih =>
    rw [List.cons_append, List.cons_append, scan_literal_cons, if_pos rfl, scan_escaped_cons, ih]

/-- What goes on with a number keeps the scan in it. -/
theorem scan_number_append (all : ∀ d ∈ more, continuesNumber d = true) :
    scan .number member found (more ++ rest) = scan .number member found rest := by
  induction more with
  | nil => rfl
  | cons d more ih =>
    rw [List.forall_mem_cons] at all
    rw [List.cons_append, scan_number_cons, if_pos all.1, ih all.2]

theorem scan_number_stop (stops : Stops continuesNumber rest) :
    scan .number member found rest = scan .between false found rest := by
  cases rest with
  | nil => rfl
  | cons c rest => rw [scan_number_cons, if_neg (Bool.eq_false_iff.1 (stops c rfl))]

/-- What goes on with a name is kept with it. -/
theorem scan_name_append {reversed : List Char} (all : ∀ d ∈ more, continuesName d = true) :
    scan (.name reversed) member found (more ++ rest) = scan (.name (more.reverse ++ reversed)) member found rest := by
  induction more generalizing reversed with
  | nil => rfl
  | cons d more ih =>
    rw [List.forall_mem_cons] at all
    rw [List.cons_append, scan_name_cons, if_pos all.1, ih all.2, List.reverse_cons, List.append_assoc,
      List.singleton_append]

theorem scan_name_stop {reversed : List Char} (stops : Stops continuesName rest) :
    scan (.name reversed) member found rest =
      scan .between false (note found member (String.ofList reversed.reverse) rest) rest := by
  cases rest with
  | nil => rfl
  | cons c rest => rw [scan_name_cons, if_neg (Bool.eq_false_iff.1 (stops c rfl))]

/-- Blanks change nothing. -/
theorem scan_blanks_append (all : ∀ d ∈ more, isBlank d = true) :
    scan .between member found (more ++ rest) = scan .between member found rest := by
  induction more with
  | nil => rfl
  | cons d more ih =>
    rw [List.forall_mem_cons] at all
    simpa [scan_between_cons, Kind.ofChar_of_blank all.1, afterPoint, all.1] using ih all.2

/-! ## One piece -/

/-- The names found behind a piece. -/
def foundBehind (member : Bool) (found : List String) (rest : List Char) : Piece → List String
  | .name cs => note found member (String.ofList cs) rest
  | _ => found

/-- Whether a point is the last thing before what stands behind a piece. -/
def pointBehind (member : Bool) : Piece → Bool
  | .blanks _ => member
  | .other c => c = '.'
  | _ => false

/-- **The scan of one piece**: it notes a name, and remembers a point. -/
theorem scan_first (first : First p rest) :
    scan .between member found (p.chars ++ rest) =
      scan .between (pointBehind member p) (foundBehind member found rest p) rest := by
  cases first with
  | @closed quote _ _ opens inside =>
    have notSlash : quote ≠ '\\' := by rintro rfl; cases opens
    simp [Piece.chars, scan_between_cons, Kind.ofChar_of_quote opens, scan_inside inside, scan_literal_cons, notSlash,
      pointBehind, foundBehind]
  | @unclosed quote _ _ opens inside ends =>
    simp only [Piece.chars, List.append_nil, scan_between_cons, Kind.ofChar_of_quote opens,
      scan_inside inside]
    rcases ends with rfl | rfl <;> rfl
  | number digit all stops =>
    simp [Piece.chars, scan_between_cons, Kind.ofChar_of_digit digit, scan_number_append all, scan_number_stop stops,
      pointBehind, foundBehind]
  | name letter all stops =>
    simp [Piece.chars, scan_between_cons, Kind.ofChar_of_letter letter, scan_name_append all, scan_name_stop stops,
      pointBehind, foundBehind]
  | blanks blank all stops => exact scan_blanks_append (List.forall_mem_cons.2 ⟨blank, all⟩)
  | @other c _ kind =>
    have solid : isBlank c = false := Kind.isBlank_eq_false (by simp [kind])
    simp [Piece.chars, scan_between_cons, kind, afterPoint, solid, pointBehind, foundBehind]

/-- A name is noted when the pieces around it let it be read. -/
theorem note_eq {before after : Option Piece} (here : member = (before == some (.other '.')))
    (behind : isCalled rest = (after == some (.other '('))) :
    note found member (String.ofList cs) rest = adjoin found ((Piece.name cs).read? before after).toList := by
  simp only [note, here, behind, Piece.read?]
  by_cases unread : before = some (.other '.') ∨ after = some (.other '(') ∨ String.ofList cs ∈ keywords
  · rw [if_pos unread]
    rcases unread with point | bracket | keyword
    · simp [point, adjoin]
    · simp [bracket, adjoin]
    · simp [keyword, adjoin]
  · rw [if_neg unread]
    simp only [not_or] at unread
    simp [unread, adjoin]

/-! ## All pieces -/

/-- **The scan of a text is a walk over its pieces.** -/
theorem scan_eq_of_cut (before : Option Piece) (here : member = (before == some (.other '.'))) (h : Cut cs pieces) :
    scan .between member found cs = adjoin found (reads before (significant pieces)) := by
  induction h generalizing member found before with
  | done => rfl
  | @cons p rest pieces first cut ih =>
    rw [scan_first first]
    by_cases blanks : p.kind = .blank
    · obtain ⟨cs, rfl⟩ := Piece.exists_blanks blanks
      exact ih before here
    · have kept : significant (p :: pieces) = p :: significant pieces := by simp [significant, blanks]
      have point : pointBehind member p = (some p == some (.other '.')) := by
        cases p with
        | blanks => exact absurd rfl blanks
        | other c => rw [Bool.eq_iff_iff]; simp [pointBehind]
        | _ => rfl
      rw [kept, reads, adjoin_append, ih (some p) point]
      congr 1
      cases p with
      | name => exact note_eq here (isCalled_eq_of_cut cut)
      | _ => rfl

/-- **The variables that an expression reads** are the names among its pieces that are no keyword, and that stand,
blanks apart, neither behind a point nor before an opening bracket: each once, in the order of their first use. The
pieces are the only ones that the text is cut into, and together they are the text. -/
theorem references_eq_readNames (text : String) :
    ∃ pieces, Cut text.toList pieces ∧ (∀ other, Cut text.toList other → other = pieces) ∧
      pieces.flatMap Piece.chars = text.toList ∧ references text = readNames pieces := by
  obtain ⟨pieces, cut⟩ := exists_cut text.toList
  exact ⟨pieces, cut, fun other cut' => cut'.unique cut, cut.flatMap_chars,
    (scan_eq_of_cut none rfl cut).trans (adjoin_nil _)⟩

example : references "not order . items(total) == 'order\\' && 3px" = ["order", "total"] := by decide +kernel

end Scan

end ProcessCompiler.Expression
