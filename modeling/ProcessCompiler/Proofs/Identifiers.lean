import ProcessCompiler.Proofs.Generator
import ProcessCompiler.Program

/-!
# Identifiers and imports

Whatever a text is, the name that is made of it is an identifier. A path of identifiers is read back as these, so that
no import which a builder needs is dropped, whatever the library is called.

* `Identifier.isIdentifier_iff`: the shape of an identifier.
* `Identifier.isIdentifier_sanitize`: names that are made of texts are identifiers.
* `Identifier.sanitize_eq_self_iff`: of identifiers themselves are made.
* `Identifier.eq_of_sanitize_eq`: a name without underscores is made of one text only.
* `importNames?_join`: a name in front of a path.
* `importNames?_builder`: what is imported for a builder.
-/

namespace ProcessCompiler

/-! ## The shape of an identifier -/

namespace Identifier

/-- An ASCII letter. -/
def Letter (c : Char) : Prop := 'A' ≤ c ∧ c ≤ 'Z' ∨ 'a' ≤ c ∧ c ≤ 'z'

/-- An ASCII digit. -/
def Digit (c : Char) : Prop := '0' ≤ c ∧ c ≤ '9'

/-- **The shape of an identifier**: a letter or an underscore, and then letters, digits and underscores. -/
def Shaped (text : String) : Prop :=
  ∃ first rest, text.toList = first :: rest ∧ (Letter first ∨ first = '_') ∧
    ∀ c ∈ rest, Letter c ∨ Digit c ∨ c = '_'

theorem isAlpha_iff {c : Char} : c.isAlpha = true ↔ Letter c := by
  have upper : c.isUpper = true ↔ 'A' ≤ c ∧ c ≤ 'Z' := decide_eq_true_iff
  have lower : c.isLower = true ↔ 'a' ≤ c ∧ c ≤ 'z' :=
    Bool.and_eq_true_iff.trans (and_congr decide_eq_true_iff decide_eq_true_iff)
  exact Bool.or_eq_true_iff.trans (or_congr upper lower)

theorem isDigit_iff {c : Char} : c.isDigit = true ↔ Digit c := by
  simp [Char.isDigit, Digit, Char.le_def]

theorem isStart_iff {c : Char} : isStart c = true ↔ Letter c ∨ c = '_' := by
  simp [isStart, isAlpha_iff]

theorem isPart_iff {c : Char} : isPart c = true ↔ Letter c ∨ Digit c ∨ c = '_' := by
  simp [isPart, Char.isAlphanum, isAlpha_iff, isDigit_iff, or_assoc]

/-- **The check for identifiers** finds those of the shape. -/
theorem isIdentifier_iff {text : String} : isIdentifier text = true ↔ Shaped text := by
  unfold isIdentifier Shaped
  cases text.toList with
  | nil => simp
  | cons c rest =>
    simp only [Bool.and_eq_true, List.all_eq_true, isStart_iff, isPart_iff]
    constructor
    · rintro ⟨start, parts⟩
      exact ⟨c, rest, rfl, start, parts⟩
    · rintro ⟨_, _, same, start, parts⟩
      cases same
      exact ⟨start, parts⟩

instance (text : String) : Decidable (Shaped text) := decidable_of_iff _ isIdentifier_iff

/-! ## Names that are made of texts -/

theorem sanitizeChar_of_isPart {c : Char} (part : isPart c = true) : sanitizeChar c = c := if_pos part

theorem sanitizeChar_of_not_isPart {c : Char} (other : isPart c ≠ true) : sanitizeChar c = '_' := if_neg other

theorem sanitizeChars_of_isDigit {c : Char} {cs : List Char} (digit : c.isDigit = true) :
    sanitizeChars (c :: cs) = '_' :: c :: cs.map sanitizeChar :=
  if_pos digit

theorem sanitizeChars_of_not_isDigit {c : Char} {cs : List Char} (noDigit : c.isDigit ≠ true) :
    sanitizeChars (c :: cs) = sanitizeChar c :: cs.map sanitizeChar :=
  if_neg noDigit

theorem isPart_sanitizeChar (c : Char) : isPart (sanitizeChar c) = true := by
  by_cases part : isPart c = true
  · rw [sanitizeChar_of_isPart part]
    exact part
  · rw [sanitizeChar_of_not_isPart part]
    decide

/-- What stands in an identifier may start one, unless it is a digit. -/
theorem isStart_sanitizeChar {c : Char} (noDigit : c.isDigit = false) : isStart (sanitizeChar c) = true := by
  by_cases part : isPart c = true
  · rw [sanitizeChar_of_isPart part]
    simpa [isPart, isStart, Char.isAlphanum, noDigit] using part
  · rw [sanitizeChar_of_not_isPart part]
    decide

/-- **A name that is made of a text is an identifier.** -/
theorem isIdentifier_sanitize (text : String) : isIdentifier (sanitize text) = true := by
  have parts : ∀ cs : List Char, (cs.map sanitizeChar).all isPart = true := by
    intro cs
    simp [isPart_sanitizeChar]
  unfold isIdentifier sanitize
  rw [String.toList_ofList]
  cases text.toList with
  | nil => decide
  | cons c cs =>
    by_cases digit : c.isDigit = true
    · have part : isPart c = true := by simp [isPart, Char.isAlphanum, digit]
      rw [sanitizeChars_of_isDigit digit]
      simp only [List.all_cons, part, parts, Bool.and_true]
      decide
    · rw [sanitizeChars_of_not_isDigit digit]
      simp only [parts, Bool.and_true]
      exact isStart_sanitizeChar (Bool.eq_false_iff.2 digit)

/-- What is in an identifier may stand in one. -/
theorem isPart_of_mem {name : String} {c : Char} (h : isIdentifier name = true) (member : c ∈ name.toList) :
    isPart c = true := by
  obtain ⟨first, rest, chars, start, parts⟩ := isIdentifier_iff.1 h
  rw [chars] at member
  rw [isPart_iff]
  rcases List.mem_cons.1 member with rfl | member
  · exact start.imp_right .inr
  · exact parts c member

/-- A digit starts no identifier. -/
theorem not_isDigit_of_isStart {c : Char} (start : isStart c = true) : c.isDigit ≠ true := by
  intro digit
  have low := (isDigit_iff.1 digit).2
  rcases isStart_iff.1 start with (⟨above, -⟩ | ⟨above, -⟩) | rfl
  · exact absurd (Char.le_trans above low) (by decide)
  · exact absurd (Char.le_trans above low) (by decide)
  · exact absurd digit (by decide)

/-- Characters that stay as they are stay together, unless a digit is in front. -/
theorem sanitizeChars_eq_self {c : Char} {cs : List Char} (noDigit : c.isDigit ≠ true)
    (stay : ∀ d ∈ c :: cs, sanitizeChar d = d) : sanitizeChars (c :: cs) = c :: cs := by
  have kept : (c :: cs).map sanitizeChar = (c :: cs).map id := List.map_congr_left stay
  rw [List.map_id] at kept
  rw [sanitizeChars_of_not_isDigit noDigit]
  exact kept

/-- An identifier is made of itself. -/
theorem sanitize_of_isIdentifier {text : String} (h : isIdentifier text = true) : sanitize text = text := by
  have stay : ∀ d ∈ text.toList, sanitizeChar d = d := fun d member => sanitizeChar_of_isPart (isPart_of_mem h member)
  obtain ⟨first, rest, chars, start, -⟩ := isIdentifier_iff.1 h
  apply String.toList_injective
  rw [sanitize, String.toList_ofList]
  rw [chars] at stay ⊢
  exact sanitizeChars_eq_self (not_isDigit_of_isStart (isStart_iff.2 start)) stay

/-- **Of identifiers themselves are made**, and of no other texts. -/
theorem sanitize_eq_self_iff {text : String} : sanitize text = text ↔ Shaped text := by
  rw [← isIdentifier_iff]
  exact ⟨fun same => same ▸ isIdentifier_sanitize text, sanitize_of_isIdentifier⟩

/-- Characters that become others become underscores. -/
theorem eq_of_sanitizeChar_ne {c : Char} (h : sanitizeChar c ≠ '_') : sanitizeChar c = c := by
  by_cases part : isPart c = true
  · exact sanitizeChar_of_isPart part
  · exact absurd (sanitizeChar_of_not_isPart part) h

/-- **A name without underscores is made of no text but itself.** -/
theorem eq_of_sanitize_eq {text name : String} (h : sanitize text = name) (plain : '_' ∉ name.toList) :
    text = name := by
  subst h
  unfold sanitize at plain ⊢
  rw [String.toList_ofList] at plain
  have same : sanitizeChars text.toList = text.toList := by
    cases chars : text.toList with
    | nil =>
      rw [chars] at plain
      exact absurd (by decide) plain
    | cons c cs =>
      rw [chars] at plain
      by_cases digit : c.isDigit = true
      · rw [sanitizeChars_of_isDigit digit] at plain
        exact absurd List.mem_cons_self plain
      · rw [sanitizeChars_of_not_isDigit digit] at plain
        refine sanitizeChars_eq_self digit fun d member => eq_of_sanitizeChar_ne fun underscore => plain ?_
        have among : sanitizeChar d ∈ (c :: cs).map sanitizeChar := List.mem_map_of_mem member
        rw [underscore] at among
        exact among
  rw [same, String.ofList_toList]

/-- No colon is in an identifier. -/
theorem notMem_colon {name : String} (h : isIdentifier name = true) : ':' ∉ name.toList :=
  fun member => absurd (isPart_of_mem h member) (by decide)

end Identifier

/-! ## Paths -/

theorem splitPath_of_notMem {part : List Char} (h : ':' ∉ part) : splitPath part = [part] := by
  induction part with
  | nil => rfl
  | cons c part ih =>
    rw [List.mem_cons, not_or] at h
    obtain ⟨first, others⟩ := h
    rw [splitPath, ih others]
    rintro rest rfl
    exact absurd rfl first

theorem splitPath_append {part : List Char} (h : ':' ∉ part) (rest : List Char) :
    splitPath (part ++ ':' :: ':' :: rest) = part :: splitPath rest := by
  induction part with
  | nil => rfl
  | cons c part ih =>
    rw [List.mem_cons, not_or] at h
    obtain ⟨first, others⟩ := h
    rw [List.cons_append, splitPath, ih others]
    rintro rest rfl
    exact absurd rfl first

/-- **A name in front of a path** is imported with it, and so is not what decides whether the path is. -/
theorem importNames?_join {name : String} (h : Identifier.isIdentifier name = true) (path : String) :
    importNames? (name ++ "::" ++ path) = (importNames? path).map (name :: ·) := by
  have chars : (name ++ "::" ++ path).toList = name.toList ++ ':' :: ':' :: path.toList := by simp
  unfold importNames?
  rw [chars, splitPath_append (Identifier.notMem_colon h), List.map_cons, String.ofList_toList]
  simp only [List.all_cons, h, Bool.true_and]
  split <;> rfl

/-- A path of one name. -/
theorem importNames?_of_isIdentifier {name : String} (h : Identifier.isIdentifier name = true) :
    importNames? name = some [name] := by
  unfold importNames?
  simp [splitPath_of_notMem (Identifier.notMem_colon h), String.ofList_toList, h]

/-- The library is imported from, whatever it is called. -/
theorem importNames?_runtimePath (options : Options) (path : String) :
    importNames? (options.runtimePath path) = (importNames? path).map (options.runtimeName :: ·) :=
  importNames?_join (Identifier.isIdentifier_sanitize _) path

/-- What is imported for a type of builders. -/
theorem importNames?_nodes (options : Options) {factoryType : String}
    (h : Identifier.isIdentifier factoryType = true) :
    importNames? (options.runtimePath ("nodes::" ++ factoryType)) =
      some [options.runtimeName, "nodes", factoryType] := by
  rw [importNames?_runtimePath, show "nodes::" = "nodes" ++ "::" from rfl, importNames?_join (by decide),
    importNames?_of_isIdentifier h]
  rfl

/-- The name of a builder's type is an identifier. -/
theorem BuiltinType.isIdentifier_factoryType (type : BuiltinType) :
    Identifier.isIdentifier type.factoryType = true := by
  cases type <;> decide

/-- **What is imported for a builder** is its type in the library, whatever the library is called. -/
theorem importNames?_builder (options : Options) (type : BuiltinType) :
    importNames? (options.runtimePath ("nodes::" ++ type.factoryType)) =
      some [options.runtimeName, "nodes", type.factoryType] :=
  importNames?_nodes options type.isIdentifier_factoryType

end ProcessCompiler
