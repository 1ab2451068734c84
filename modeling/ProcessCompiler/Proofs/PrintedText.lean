import Mathlib.Tactic.IntervalCases
import ProcessCompiler.Json.Printer
import ProcessCompiler.Json.Scan

/-!
# Printed text read back

The compact text of a value spells the value: its tree is that of the value, without a fault. This holds of values whose
numbers are all kept exactly, as the digits of a double may stand for another one.

* `Value.isExact`: values without doubles.
* `scanString_printed`: a string, whatever comes behind it.
* `scanNumeral_toDigits`, `scanValue_printInt`: a whole number, if what comes behind it may follow a value.
* `scanValue_printed`: a value at the front of a text.
* `Tree.ofText_compact`: the text of a value.
-/

namespace ProcessCompiler.Json

/-! ## Exact values -/

/-- Whether a number is kept exactly. -/
def Number.isExact : Number → Bool
  | .integer _ _ => true
  | .double _ => false

namespace Value

mutual

/-- **Whether all numbers in a value are kept exactly.** -/
def isExact : Value → Bool
  | .null | .bool _ | .string _ => true
  | .number value => value.isExact
  | .array items => isExactAll items
  | .object fields => isExactFields fields

/-- Whether all numbers in values are kept exactly. -/
def isExactAll : List Value → Bool
  | [] => true
  | item :: items => item.isExact && isExactAll items

/-- Whether all numbers in fields are kept exactly. -/
def isExactFields : List (String × Value) → Bool
  | [] => true
  | (_, value) :: fields => value.isExact && isExactFields fields

end

end Value

/-! ## Strings -/

theorem hexValue?_hexDigit (n : Nat) : hexValue? (hexDigit n) = some (n % 16) := by
  have small : ∀ k < 16, hexValue? (Nat.digitChar k) = some k := by decide
  exact small _ (Nat.mod_lt n (by decide))

theorem utf8Size_hexDigit (n : Nat) : (hexDigit n).utf8Size = 1 := by
  have small : ∀ k < 16, (Nat.digitChar k).utf8Size = 1 := by decide
  exact small _ (Nat.mod_lt n (by decide))

/-- The escape of a control character names it. -/
theorem scanUnicode_control {c : Char} (control : c.toNat < 0x20) (rest : List Char) :
    scanUnicode ('0' :: '0' :: hexDigit (c.toNat / 16) :: hexDigit c.toNat :: rest) = .ok (c, rest) := by
  have zero : hexValue? '0' = some 0 := rfl
  have narrow : '0'.utf8Size = 1 := rfl
  have unit : scanUnit ('0' :: '0' :: hexDigit (c.toNat / 16) :: hexDigit c.toNat :: rest) = .ok (c.toNat, rest) := by
    have whole : c.toNat / 16 % 16 * 16 + c.toNat % 16 = c.toNat := by omega
    simp [scanUnit, zero, narrow, utf8Size_hexDigit, hexValue?_hexDigit, whole]
  have below : ¬ (0xdc00 ≤ c.toNat ∧ c.toNat ≤ 0xdfff) := by omega
  rw [scanUnicode, unit]
  simp only [bind, Except.bind, if_neg below, if_pos (Or.inl (show c.toNat < 0xd800 by omega)), Char.ofNat_toNat]

/-- Reading undoes the escape of a character. -/
theorem readString_escapeChar (c : Char) (fuel : Nat) (rest : List Char) :
    readString (fuel + 1) (escapeChar c ++ rest) =
      readString fuel rest >>= fun (cs, rest) => .ok (c :: cs, rest) := by
  unfold escapeChar
  split
  · next h => subst h; rfl
  split
  · next h => subst h; rfl
  split
  · next h => subst h; rfl
  split
  · next h => subst h; rfl
  split
  · next h => subst h; rfl
  split
  · next h => subst h; rfl
  split
  · next h => subst h; rfl
  next quote slash _ _ _ _ _ =>
  split
  · next control =>
    simp only [List.cons_append, List.nil_append, readString, scanUnicode_control control]
    rfl
  · next plain =>
    rw [List.singleton_append, readString, if_neg plain]
    · rfl
    all_goals simp_all

/-- The text of a string ends where its closing quote stands. -/
theorem readString_printed (cs rest : List Char) {fuel : Nat} (enough : cs.length < fuel) :
    readString fuel (cs.flatMap escapeChar ++ '"' :: rest) = .ok (cs, rest) := by
  induction cs generalizing fuel with
  | nil =>
    obtain ⟨fuel, rfl⟩ : ∃ n, fuel = n + 1 := ⟨fuel - 1, by omega⟩
    rfl
  | cons c cs ih =>
    obtain ⟨fuel, rfl⟩ : ∃ n, fuel = n + 1 := ⟨fuel - 1, by omega⟩
    rw [List.flatMap_cons, List.append_assoc, readString_escapeChar, ih (by simpa using enough)]
    rfl

theorem length_pos_escapeChar (c : Char) : 0 < (escapeChar c).length := by
  unfold escapeChar
  grind

theorem length_le_flatMap_escapeChar (cs : List Char) : cs.length ≤ (cs.flatMap escapeChar).length := by
  induction cs with
  | nil => exact Nat.le_refl 0
  | cons c cs ih =>
    have := length_pos_escapeChar c
    rw [List.flatMap_cons, List.length_append, List.length_cons]
    omega

/-- **The text of a string spells the string**, whatever comes behind its closing quote. -/
theorem scanString_printed (text : String) (rest : List Char) :
    scanString (text.toList.flatMap escapeChar ++ '"' :: rest) = (.ok text, rest) := by
  have enough := length_le_flatMap_escapeChar text.toList
  have longer : text.toList.length < (text.toList.flatMap escapeChar ++ '"' :: rest).length := by
    rw [List.length_append, List.length_cons]
    omega
  rw [scanString, readString_printed text.toList rest longer]
  simp

/-! ## Numbers -/

/-- What may come behind a value: nothing, or what goes on behind an item or field, or closes them. -/
def Follows (rest : List Char) : Prop := ∀ c, rest.head? = some c → c = ',' ∨ c = ']' ∨ c = '\x7d'

theorem follows_nil : Follows [] := nofun

theorem follows_cons {c : Char} (mark : c = ',' ∨ c = ']' ∨ c = '\x7d') (rest : List Char) : Follows (c :: rest) := by
  rintro _ ⟨⟩
  exact mark

/-- A number above zero is written without a zero in front. -/
theorem head?_toDigits_ne {n : Nat} (positive : 0 < n) : (Nat.toDigits 10 n).head? ≠ some '0' := by
  induction n using Nat.strongRecOn with
  | ind n ih =>
    rw [Nat.toDigits_eq_if (by decide)]
    split
    · next small => interval_cases n <;> decide
    · next large =>
      obtain ⟨d, digits, front⟩ := List.exists_cons_of_ne_nil (Nat.toDigits_ne_nil (n := n / 10) (b := 10))
      have notZero := ih (n / 10) (by omega) (by omega)
      rwa [front] at notZero ⊢

theorem digitsValue_toDigits (n : Nat) : digitsValue 0 (Nat.toDigits 10 n) = n := by
  have same : digitsValue 0 (Nat.toDigits 10 n) = Nat.ofDigitChars 10 (Nat.toDigits 10 n) 0 := by
    rw [digitsValue, Nat.ofDigitChars]
    congr 1
    funext sofar c
    rw [digitValue, Nat.mul_comm]
  rw [same, Nat.ofDigitChars_toDigits (by decide) (by decide)]

/-- Nothing that goes on behind a value is a digit, or goes on in a number. -/
theorem Follows.spanDigits {rest : List Char} (ends : Follows rest) {digits : List Char}
    (all : ∀ d ∈ digits, d.isDigit = true) : spanDigits (digits ++ rest) = (digits, rest) := by
  have stop : rest.takeWhile Char.isDigit = [] := by
    cases rest with
    | nil => rfl
    | cons c rest => rcases ends c rfl with rfl | rfl | rfl <;> rfl
  have left : rest.dropWhile Char.isDigit = rest := by
    have := List.takeWhile_append_dropWhile (p := Char.isDigit) (l := rest)
    rwa [stop] at this
  rw [Json.spanDigits, List.takeWhile_append_of_pos all, List.dropWhile_append_of_pos all, stop, left, List.append_nil]

theorem scanWhole_toDigits (n : Nat) {rest : List Char} (ends : Follows rest) :
    scanWhole (Nat.toDigits 10 n ++ rest) = .ok (Nat.toDigits 10 n, rest) := by
  have all : ∀ d ∈ Nat.toDigits 10 n, d.isDigit = true := fun d =>
    Nat.isDigit_of_mem_toDigits (by decide) (by decide)
  rw [scanWhole, ends.spanDigits all]
  split
  · next none => exact absurd (congrArg Prod.fst none) Nat.toDigits_ne_nil
  · next d digits rest' padded =>
    -- A second digit stands only in a number above zero, which has no zero in front.
    have front : Nat.toDigits 10 n = '0' :: d :: digits := congrArg Prod.fst padded
    rcases Nat.eq_zero_or_pos n with rfl | positive
    · cases front
    · exact absurd (by rw [front]; rfl) (head?_toDigits_ne positive)
  · next same => cases same; rfl

/-- **Digits spell a number**, if what comes behind them may follow a value. -/
theorem scanNumeral_toDigits (negative : Bool) (n : Nat) {rest : List Char} (ends : Follows rest) :
    scanNumeral negative (Nat.toDigits 10 n ++ rest) = .ok (⟨negative, Nat.toDigits 10 n, none, none⟩, rest) := by
  have fraction : scanFraction rest = .ok (none, rest) := by
    cases rest with
    | nil => rfl
    | cons c rest => rcases ends c rfl with rfl | rfl | rfl <;> rfl
  have exponent : scanExponent rest = .ok (none, rest) := by
    cases rest with
    | nil => rfl
    | cons c rest => rcases ends c rfl with rfl | rfl | rfl <;> rfl
  rw [scanNumeral, scanWhole_toDigits n ends]
  simp only [bind, Except.bind, fraction, exponent]
  rfl

/-- A whole number that a word of 64 bits holds is kept exactly. -/
theorem ofInt?_eq_some {value : Int} (bounds : -0x8000000000000000 ≤ value ∧ value < 0x10000000000000000) :
    Number.ofInt? value = some (.integer value bounds) := dif_pos bounds

/-- A whole numeral is kept exactly if it is not that of minus zero and a word of 64 bits holds it. -/
theorem toNumber_whole {negative : Bool} {n : Nat} {value : Int} (proper : ¬ (negative = true ∧ n = 0))
    (same : (if negative = true then -(n : Int) else (n : Int)) = value)
    (bounds : -0x8000000000000000 ≤ value ∧ value < 0x10000000000000000) :
    Numeral.toNumber ⟨negative, Nat.toDigits 10 n, none, none⟩ = .ok (.integer value bounds) := by
  simp only [Numeral.toNumber, digitsValue_toDigits, if_neg proper, same, ofInt?_eq_some bounds]

/-- A number behind its sign. -/
theorem scanNumber_toDigits (negative : Bool) (n : Nat) {value : Int} (proper : ¬ (negative = true ∧ n = 0))
    (same : (if negative = true then -(n : Int) else (n : Int)) = value)
    (bounds : -0x8000000000000000 ≤ value ∧ value < 0x10000000000000000) {rest : List Char} (ends : Follows rest) :
    scanNumber negative (Nat.toDigits 10 n ++ rest) = (.number (.ok (.integer value bounds)), rest) := by
  rw [scanNumber, scanNumeral_toDigits negative n ends]
  simp only [toNumber_whole proper same bounds]

theorem ne_of_isDigit {d c : Char} (digit : d.isDigit = true) (other : c.isDigit = false) : d ≠ c := by
  rintro rfl
  exact absurd (digit.symm.trans other) (by decide)

theorem isSpace_of_isDigit {d : Char} (digit : d.isDigit = true) : isSpace d = false := by
  have other (c : Char) := ne_of_isDigit (c := c) digit
  simp [isSpace, other ' ', other '\n', other '\t', other '\r']

theorem exists_toDigits_eq_cons (n : Nat) : ∃ d digits, Nat.toDigits 10 n = d :: digits ∧ d.isDigit = true := by
  obtain ⟨d, digits, front⟩ := List.exists_cons_of_ne_nil (Nat.toDigits_ne_nil (n := n) (b := 10))
  have among : d ∈ Nat.toDigits 10 n := by rw [front]; exact List.mem_cons_self
  exact ⟨d, digits, front, Nat.isDigit_of_mem_toDigits (by decide) (by decide) among⟩

/-- A digit starts a number. -/
theorem scanValue_digit {d : Char} (digit : d.isDigit = true) (fuel : Nat) (cs : List Char) :
    scanValue (fuel + 1) (d :: cs) = scanNumber false (d :: cs) := by
  have front : dropSpaces (d :: cs) = d :: cs := by simp [dropSpaces, isSpace_of_isDigit digit]
  rw [scanValue, front]
  split <;> simp_all

theorem scanValue_minus (fuel : Nat) (cs : List Char) : scanValue (fuel + 1) ('-' :: cs) = scanNumber true cs := by
  simp [scanValue, dropSpaces, isSpace]

/-- **The text of a whole number spells the number**, if what comes behind it may follow a value. -/
theorem scanValue_printInt {value : Int} (bounds : -0x8000000000000000 ≤ value ∧ value < 0x10000000000000000)
    (fuel : Nat) {rest : List Char} (ends : Follows rest) :
    scanValue (fuel + 1) (printInt value ++ rest) = (.number (.ok (.integer value bounds)), rest) := by
  cases value with
  | ofNat n =>
    obtain ⟨d, digits, front, digit⟩ := exists_toDigits_eq_cons n
    have scanned := scanNumber_toDigits false n (by simp) rfl bounds ends
    rw [printInt, front, List.cons_append, scanValue_digit digit, ← List.cons_append, ← front]
    exact scanned
  | negSucc n =>
    have scanned := scanNumber_toDigits true (n + 1) (by simp) rfl bounds ends
    rw [printInt, List.cons_append, scanValue_minus]
    exact scanned

/-! ## Values -/

/-- A value starts with neither a blank nor a bracket that closes. -/
theorem exists_print_eq_cons {v : Value} (exact : v.isExact = true) :
    ∃ c cs, v.print = c :: cs ∧ isSpace c = false ∧ c ≠ ']' := by
  match v with
  | .null => exact ⟨_, _, rfl, rfl, by decide⟩
  | .bool true => exact ⟨_, _, rfl, rfl, by decide⟩
  | .bool false => exact ⟨_, _, rfl, rfl, by decide⟩
  | .number (.integer (.ofNat n) _) =>
    obtain ⟨d, digits, front, digit⟩ := exists_toDigits_eq_cons n
    exact ⟨d, digits, front, isSpace_of_isDigit digit, ne_of_isDigit digit rfl⟩
  | .number (.integer (.negSucc n) _) => exact ⟨_, _, rfl, rfl, by decide⟩
  | .number (.double x) => cases exact
  | .string text => exact ⟨_, _, rfl, rfl, by decide⟩
  | .array [] => exact ⟨_, _, rfl, rfl, by decide⟩
  | .array (item :: items) => exact ⟨_, _, rfl, rfl, by decide⟩
  | .object [] => exact ⟨_, _, rfl, rfl, by decide⟩
  | .object ((key, value) :: fields) => exact ⟨_, _, rfl, rfl, by decide⟩

theorem follows_printItems (items : List Value) (rest : List Char) : Follows (Value.printItems items ++ rest) := by
  cases items with
  | nil => exact follows_cons (.inr (.inl rfl)) _
  | cons item items => exact follows_cons (.inl rfl) _

theorem follows_printFields (fields : List (String × Value)) (rest : List Char) :
    Follows (Value.printFields fields ++ rest) := by
  cases fields with
  | nil => exact follows_cons (.inr (.inr rfl)) _
  | cons field fields => exact follows_cons (.inl rfl) _

theorem length_printString (text : String) :
    (printString text).length = (text.toList.flatMap escapeChar).length + 2 := by
  rw [printString, List.cons_append, List.length_cons, List.length_append, List.length_singleton]

section Steps

variable {fuel : Nat} {c : Char} {cs rest : List Char} {tree : Tree} {key : Except Fault String}

/-- An array with an item. -/
theorem scanValue_array (solid : isSpace c = false) (item : c ≠ ']') :
    scanValue (fuel + 1) ('[' :: c :: cs) =
      (.array (scanItems fuel (c :: cs)).1 (scanItems fuel (c :: cs)).2.1, (scanItems fuel (c :: cs)).2.2) := by
  have front : dropSpaces ('[' :: c :: cs) = '[' :: c :: cs := rfl
  have front' : dropSpaces (c :: cs) = c :: cs := by simp [dropSpaces, solid]
  rw [scanValue, front]
  simp only [front']
  split <;> simp_all

/-- An object with a field. -/
theorem scanValue_object : scanValue (fuel + 1) ('\x7b' :: '"' :: cs) =
    (.object (scanFields fuel cs).1 (scanFields fuel cs).2.1, (scanFields fuel cs).2.2) := by
  simp [scanValue, dropSpaces, isSpace]

theorem scanItems_last (scanned : scanValue fuel cs = (tree, ']' :: rest)) :
    scanItems (fuel + 1) cs = ([tree], .closed, rest) := by
  simp [scanItems, scanned, dropSpaces, isSpace]

theorem scanItems_more (scanned : scanValue fuel cs = (tree, ',' :: c :: rest)) (solid : isSpace c = false)
    (item : c ≠ ']') : scanItems (fuel + 1) cs =
      (tree :: (scanItems fuel (c :: rest)).1, (scanItems fuel (c :: rest)).2.1, (scanItems fuel (c :: rest)).2.2) := by
  have front : dropSpaces (',' :: c :: rest) = ',' :: c :: rest := rfl
  have front' : dropSpaces (c :: rest) = c :: rest := by simp [dropSpaces, solid]
  rw [scanItems, scanned]
  simp only [front, front']
  split <;> simp_all

theorem scanField_last (scanned : scanValue fuel cs = (tree, '\x7d' :: rest)) :
    scanField (fuel + 1) key (':' :: cs) = ([(key, tree)], .closed, rest) := by
  simp [scanField, scanned, dropSpaces, isSpace]

theorem scanField_more (scanned : scanValue fuel cs = (tree, ',' :: '"' :: rest)) :
    scanField (fuel + 1) key (':' :: cs) =
      ((key, tree) :: (scanFields fuel rest).1, (scanFields fuel rest).2.1, (scanFields fuel rest).2.2) := by
  simp [scanField, scanned, dropSpaces, isSpace]

theorem scanFields_key (text : String) : scanFields (fuel + 1) (text.toList.flatMap escapeChar ++ '"' :: rest) =
    scanField fuel (.ok text) rest := by
  rw [scanFields, scanString_printed]

end Steps

mutual

/-- **The text of a value spells the value**, if what comes behind it may follow one. -/
theorem scanValue_printed (v : Value) (exact : v.isExact = true) (fuel : Nat) (enough : 3 * v.print.length ≤ fuel)
    {rest : List Char} (ends : Follows rest) : scanValue fuel (v.print ++ rest) = (.ofValue v, rest) := by
  obtain ⟨c, cs, front, _⟩ := exists_print_eq_cons exact
  obtain ⟨fuel, rfl⟩ : ∃ n, fuel = n + 1 := ⟨fuel - 1, by rw [front, List.length_cons] at enough; omega⟩
  clear front
  match v with
  | .null => simp [Value.print, scanValue, dropSpaces, isSpace, scanWord, Tree.ofValue]
  | .bool true => simp [Value.print, scanValue, dropSpaces, isSpace, scanWord, Tree.ofValue]
  | .bool false => simp [Value.print, scanValue, dropSpaces, isSpace, scanWord, Tree.ofValue]
  | .number (.integer value bounds) => exact scanValue_printInt bounds fuel ends
  | .number (.double x) => cases exact
  | .string text => simp [Value.print, printString, scanValue, dropSpaces, isSpace, scanString_printed, Tree.ofValue]
  | .array [] => simp [Value.print, scanValue, dropSpaces, isSpace, Tree.ofValue, Tree.ofItems]
  | .array (item :: items) =>
    obtain ⟨exactItem, exactItems⟩ := Bool.and_eq_true_iff.1 exact
    obtain ⟨c, cs, front, solid, notEnd⟩ := exists_print_eq_cons exactItem
    rw [Value.print, List.length_append, List.length_cons] at enough
    obtain ⟨fuel, rfl⟩ : ∃ n, fuel = n + 1 := ⟨fuel - 1, by omega⟩
    have scanned := scanValue_printed item exactItem fuel (by omega) (follows_printItems items rest)
    have whole := scanItems_printed items exactItems (by omega) scanned
    rw [front, List.cons_append] at whole
    rw [Value.print, List.append_assoc, front, List.cons_append, List.cons_append, scanValue_array solid notEnd, whole,
      Tree.ofValue, Tree.ofItems]
  | .object [] => simp [Value.print, scanValue, dropSpaces, isSpace, Tree.ofValue, Tree.ofFields]
  | .object ((key, value) :: fields) =>
    obtain ⟨exactValue, exactFields⟩ := Bool.and_eq_true_iff.1 exact
    simp only [Value.print, List.length_append, List.length_cons, length_printString] at enough
    obtain ⟨fuel, rfl⟩ : ∃ n, fuel = n + 2 := ⟨fuel - 2, by omega⟩
    have scanned := scanValue_printed value exactValue fuel (by omega) (follows_printFields fields rest)
    have whole := scanFields_printed fields exactFields (by omega) key scanned
    have text : (Value.object ((key, value) :: fields)).print ++ rest =
        '\x7b' :: '"' :: (key.toList.flatMap escapeChar ++
          '"' :: ':' :: (value.print ++ (Value.printFields fields ++ rest))) := by
      simp [Value.print, printString]
    rw [text, scanValue_object, scanFields_key, whole, Tree.ofValue, Tree.ofFields]

/-- Items behind a first one, up to the bracket behind them. -/
theorem scanItems_printed (items : List Value) (exact : Value.isExactAll items = true) {fuel : Nat}
    (enough : 3 * (Value.printItems items).length ≤ fuel + 2) {cs rest : List Char} {tree : Tree}
    (scanned : scanValue fuel cs = (tree, Value.printItems items ++ rest)) :
    scanItems (fuel + 1) cs = (tree :: Tree.ofItems items, .closed, rest) := by
  match items with
  | [] => exact scanItems_last scanned
  | item :: items =>
    obtain ⟨exactItem, exactItems⟩ := Bool.and_eq_true_iff.1 exact
    obtain ⟨c, cs', front, solid, notEnd⟩ := exists_print_eq_cons exactItem
    rw [Value.printItems, List.length_append, List.length_cons] at enough
    obtain ⟨fuel, rfl⟩ : ∃ n, fuel = n + 1 := ⟨fuel - 1, by rw [front, List.length_cons] at enough; omega⟩
    have next := scanValue_printed item exactItem fuel (by omega) (follows_printItems items rest)
    have later := scanItems_printed items exactItems (by omega) next
    rw [front, List.cons_append] at later
    rw [Value.printItems, List.append_assoc, front, List.cons_append, List.cons_append] at scanned
    rw [scanItems_more scanned solid notEnd, later, Tree.ofItems]

/-- The value of a key, and fields behind it, up to the brace behind them. -/
theorem scanFields_printed (fields : List (String × Value)) (exact : Value.isExactFields fields = true) {fuel : Nat}
    (enough : 3 * (Value.printFields fields).length ≤ fuel + 3) (name : String) {cs rest : List Char} {tree : Tree}
    (scanned : scanValue fuel cs = (tree, Value.printFields fields ++ rest)) :
    scanField (fuel + 1) (.ok name) (':' :: cs) = ((.ok name, tree) :: Tree.ofFields fields, .closed, rest) := by
  match fields with
  | [] => exact scanField_last scanned
  | (key, value) :: fields =>
    obtain ⟨exactValue, exactFields⟩ := Bool.and_eq_true_iff.1 exact
    simp only [Value.printFields, List.length_append, List.length_cons, length_printString] at enough
    obtain ⟨fuel, rfl⟩ : ∃ n, fuel = n + 2 := ⟨fuel - 2, by omega⟩
    have next := scanValue_printed value exactValue fuel (by omega) (follows_printFields fields rest)
    have later := scanFields_printed fields exactFields (by omega) key next
    have text : Value.printFields ((key, value) :: fields) ++ rest =
        ',' :: '"' :: (key.toList.flatMap escapeChar ++
          '"' :: ':' :: (value.print ++ (Value.printFields fields ++ rest))) := by
      simp [Value.printFields, printString]
    rw [text] at scanned
    rw [scanField_more scanned, scanFields_key, later, Tree.ofFields]

end

/-- **The compact text of a value spells the value**, and nothing comes behind it. -/
theorem Tree.ofText_compact (v : Value) (exact : v.isExact = true) : Tree.ofText v.compact = (.ofValue v, []) := by
  have scanned := scanValue_printed v exact (3 * v.print.length + 3) (by omega) follows_nil
  rw [List.append_nil] at scanned
  rw [Tree.ofText, Value.compact, String.length_ofList, String.toList_ofList, scanned]

end ProcessCompiler.Json
