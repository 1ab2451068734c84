import ProcessCompiler.Proofs.PrintedText
import ProcessCompiler.Token.Constant

/-!
# Reading the text of generated code

The text of generated code is read again as a sequence of lexemes: names, string literals and single marks. A literal is
read character by character, with every escape that a literal may have, whether or not one is ever written. What is read
from the text of code is what its tokens say, however they are laid out.

* `lex`: reads text as lexemes.
* `lexes_literal`: a string literal is read as the text that it was written for.
* `lex_text`: the text of code is read as the lexemes of its tokens.
-/

namespace ProcessCompiler

open Json (hexValue?)

/-! ## String literals -/

/-- Where the reading of a literal stands: among plain characters, behind a backslash, before the two digits of a byte
or between them, before the braces of a code point or in them, or at the start of a line that a backslash continues. -/
inductive LiteralState where
  | plain
  | escape
  | byte
  | byteLow (high : Nat)
  | brace
  | point (value digits : Nat)
  | continued

/-- What a character does to a literal: it closes it, leads to another state, completes a character of the text, or may
not stand there. -/
inductive LiteralStep where
  | closed
  | next (state : LiteralState)
  | char (c : Char)
  | refused

namespace LiteralState

/-- A character that is not part of an escape. Ends of lines are single line feeds, so a carriage return stands only in
an escape. -/
def plainStep (c : Char) : LiteralStep :=
  if c = '"' then .closed
  else if c = '\\' then .next .escape
  else if c = '\r' then .refused
  else .char c

/-- The character behind a backslash. -/
def escapeStep (c : Char) : LiteralStep :=
  if c = '0' then .char '\x00'
  else if c = 't' then .char '\t'
  else if c = 'r' then .char '\r'
  else if c = 'n' then .char '\n'
  else if c = '"' ∨ c = '\x27' ∨ c = '\\' then .char c
  else if c = 'x' then .next .byte
  else if c = 'u' then .next .brace
  else if c = '\n' then .next .continued
  else .refused

/-- The digits of a code point: one to six, perhaps with underscores behind the first, and then the closing brace. -/
def pointStep (value digits : Nat) (c : Char) : LiteralStep :=
  if c = '\x7d' then if 0 < digits ∧ value.isValidChar then .char (Char.ofNat value) else .refused
  else if c = '_' then if 0 < digits then .next (.point value digits) else .refused
  else
    match hexValue? c with
    | some digit => if digits < 6 then .next (.point (value * 16 + digit) (digits + 1)) else .refused
    | none => .refused

/-- **The step of a literal** on a character. A byte is below 128. -/
def step : LiteralState → Char → LiteralStep
  | .plain, c => plainStep c
  | .escape, c => escapeStep c
  | .byte, c =>
    match hexValue? c with
    | some high => if high < 8 then .next (.byteLow high) else .refused
    | none => .refused
  | .byteLow high, c =>
    match hexValue? c with
    | some low => .char (Char.ofNat (high * 16 + low))
    | none => .refused
  | .brace, c => if c = '\x7b' then .next (.point 0 0) else .refused
  | .point value digits, c => pointStep value digits c
  | .continued, c => if c = ' ' ∨ c = '\t' ∨ c = '\n' then .next .continued else plainStep c

end LiteralState

/-! ## Lexemes -/

/-- A piece of the text of code: a name or number, a string literal with the text that it stands for, or a mark. -/
inductive Lexeme where
  | name (text : String)
  | literal (text : String)
  | mark (c : Char)
  deriving DecidableEq

/-- A character of names and numbers. -/
def isNameChar (c : Char) : Bool := c.isAlphanum || c == '_'

/-- A blank between lexemes. -/
def isBlankChar (c : Char) : Bool := c == ' ' || c == '\t' || c == '\n'

/-- A character that is a lexeme by itself. -/
def isMarkChar (c : Char) : Bool := !isNameChar c && !isBlankChar c && c != '"'

theorem isBlankChar_of_isNameChar {c : Char} (name : isNameChar c = true) : isBlankChar c = false := by
  rw [Bool.eq_false_iff]
  intro blank
  simp only [isBlankChar, Bool.or_eq_true, beq_iff_eq] at blank
  obtain (rfl | rfl) | rfl := blank <;> cases name

/-- Where the reading of lexemes stands: between two of them, in a name, or in a literal, with what was read of it, the
last character first. -/
inductive LexState where
  | between
  | name (sofar : List Char)
  | literal (sofar : List Char) (state : LiteralState)

/-- The first character of a lexeme: what is complete with it, and how to go on. -/
def startLexeme (c : Char) : List Lexeme × LexState :=
  if isBlankChar c then ([], .between)
  else if isNameChar c then ([], .name [c])
  else if c = '"' then ([], .literal [] .plain)
  else ([.mark c], .between)

/-- **Reads text as lexemes.** A name is as long as it can be. -/
def lex : LexState → List Char → Option (List Lexeme)
  | .between, [] => some []
  | .name sofar, [] => some [.name (String.ofList sofar.reverse)]
  | .literal _ _, [] => none
  | .between, c :: rest => (lex (startLexeme c).2 rest).map ((startLexeme c).1 ++ ·)
  | .name sofar, c :: rest =>
    if isNameChar c then lex (.name (c :: sofar)) rest
    else
      (lex (startLexeme c).2 rest).map fun lexemes =>
        .name (String.ofList sofar.reverse) :: ((startLexeme c).1 ++ lexemes)
  | .literal sofar state, c :: rest =>
    match state.step c with
    | .closed => (lex .between rest).map (.literal (String.ofList sofar.reverse) :: ·)
    | .next state => lex (.literal sofar state) rest
    | .char read => lex (.literal (read :: sofar) .plain) rest
    | .refused => none

/-! ## Literals that are written -/

section Literals

variable {sofar rest : List Char}

theorem lex_literal_of_next {state state' : LiteralState} {c : Char} (next : state.step c = .next state') :
    lex (.literal sofar state) (c :: rest) = lex (.literal sofar state') rest := by
  rw [lex, next]

theorem lex_literal_of_char {state : LiteralState} {c read : Char} (char : state.step c = .char read) :
    lex (.literal sofar state) (c :: rest) = lex (.literal (read :: sofar) .plain) rest := by
  rw [lex, char]

/-- A digit of base sixteen in braces. -/
theorem step_point_digit {d : Nat} (digit : d < 16) (value : Nat) {count : Nat} (room : count < 6) :
    LiteralState.step (.point value count) (Nat.digitChar d) = .next (.point (value * 16 + d) (count + 1)) := by
  have reads : ∀ d < 16, Nat.digitChar d ≠ '\x7d' ∧ Nat.digitChar d ≠ '_' ∧ hexValue? (Nat.digitChar d) = some d := by
    decide
  obtain ⟨brace, underscore, read⟩ := reads d digit
  simp only [LiteralState.step, LiteralState.pointStep, if_neg brace, if_neg underscore, read, if_pos room]

/-- Digits in braces are a number of base sixteen. -/
theorem lex_point_digits (n : Nat) {value count : Nat} (room : count + (Nat.toDigits 16 n).length ≤ 6)
    (rest : List Char) : lex (.literal sofar (.point value count)) (Nat.toDigits 16 n ++ rest) =
      lex (.literal sofar (.point (value * 16 ^ (Nat.toDigits 16 n).length + n)
        (count + (Nat.toDigits 16 n).length))) rest := by
  induction n using Nat.strongRecOn generalizing rest with
  | ind n ih =>
    rw [Nat.toDigits_eq_if (by decide)] at room ⊢
    split
    · next single =>
      rw [if_pos single, List.length_singleton] at room
      rw [List.singleton_append, lex_literal_of_next (step_point_digit single value (by omega)), List.length_singleton,
        Nat.pow_one]
    · next several =>
      rw [if_neg several, List.length_append, List.length_singleton] at room
      have digit : n % 16 < 16 := Nat.mod_lt n (by decide)
      have whole : (value * 16 ^ (Nat.toDigits 16 (n / 16)).length + n / 16) * 16 + n % 16 =
          value * 16 ^ ((Nat.toDigits 16 (n / 16)).length + 1) + n := by
        rw [Nat.pow_succ]
        have := Nat.div_add_mod n 16
        grind
      rw [List.append_assoc, ih (n / 16) (by omega) (by omega), List.singleton_append,
        lex_literal_of_next (step_point_digit digit _ (by omega)), whole, List.length_append, List.length_singleton,
        Nat.add_assoc]

/-- A code point of base sixteen is read as its character. -/
theorem lex_codePoint (c : Char) : lex (.literal sofar .plain) (Text.codePoint c ++ rest) =
    lex (.literal (c :: sofar) .plain) rest := by
  have small : (Nat.toDigits 16 c.toNat).length ≤ 6 := by
    rw [Nat.length_toDigits_le_iff (by decide) (by decide)]
    have valid : c.toNat.isValidChar := c.valid
    simp only [Nat.isValidChar] at valid
    omega
  have closing : LiteralState.step (.point (0 * 16 ^ (Nat.toDigits 16 c.toNat).length + c.toNat)
      (0 + (Nat.toDigits 16 c.toNat).length)) '\x7d' = .char c := by
    have some : 0 < (Nat.toDigits 16 c.toNat).length := List.length_pos_iff.2 Nat.toDigits_ne_nil
    have valid : c.toNat.isValidChar := c.valid
    simp [LiteralState.step, LiteralState.pointStep, some, valid, Char.ofNat_toNat]
  have opens : ∀ more : List Char, lex (.literal sofar .plain) ('\\' :: 'u' :: '\x7b' :: more) =
      lex (.literal sofar (.point 0 0)) more := fun more => rfl
  rw [Text.codePoint, List.append_assoc, List.append_assoc]
  refine (opens (Nat.toDigits 16 c.toNat ++ '\x7d' :: rest)).trans ?_
  rw [lex_point_digits c.toNat (by omega), lex_literal_of_char closing]

/-- **Each character is read as it is shown.** -/
theorem lex_shown (c : Char) : lex (.literal sofar .plain) (Text.shown c ++ rest) =
    lex (.literal (c :: sofar) .plain) rest := by
  unfold Text.shown
  split
  · next same => subst same; rfl
  split
  · next same => subst same; rfl
  split
  · next same => subst same; rfl
  split
  · next same => subst same; rfl
  split
  · next same => subst same; rfl
  split
  · next same => subst same; rfl
  next noReturn _ noQuote noSlash =>
  split
  · exact lex_codePoint c
  · have plain : LiteralState.plain.step c = .char c := by
      simp only [LiteralState.step, LiteralState.plainStep, if_neg noQuote, if_neg noSlash, if_neg noReturn]
    rw [List.singleton_append, lex_literal_of_char plain]

/-- The characters of a literal are read as those of its text. A NUL may come as a byte. -/
theorem lex_literalChars (cs : List Char) : lex (.literal sofar .plain) (Text.literalChars cs ++ rest) =
    lex (.literal (cs.reverse ++ sofar) .plain) rest := by
  induction cs generalizing sofar with
  | nil => rfl
  | cons c cs ih =>
    rw [Text.literalChars, List.append_assoc]
    have first : lex (.literal sofar .plain)
        ((if c = '\x00' ∧ (cs.head?.any Text.isOctal) = true then ['\\', 'x', '0', '0'] else Text.shown c) ++
          (Text.literalChars cs ++ rest)) = lex (.literal (c :: sofar) .plain) (Text.literalChars cs ++ rest) := by
      split
      · next nul => rw [nul.1]; rfl
      · exact lex_shown c
    rw [first, ih, List.reverse_cons, List.append_assoc]
    rfl

end Literals

/-! ## Texts that are read piece by piece -/

/-- A text that a name before it does not run into. -/
def Apart (text : List Char) : Prop := ∀ c ∈ text.head?, isNameChar c = false

/-- **A text is read as lexemes**, whatever comes behind it that does not run into it. -/
def Lexes (text : List Char) (lexemes : List Lexeme) : Prop :=
  ∀ rest, Apart rest → lex .between (text ++ rest) = (lex .between rest).map (lexemes ++ ·)

theorem Apart.append {a b : List Char} (h : Apart a) (h' : Apart b) : Apart (a ++ b) := by
  cases a with
  | nil => exact h'
  | cons c a => exact h

theorem Apart.cons {c : Char} (other : isNameChar c = false) (text : List Char) : Apart (c :: text) := by
  intro d first
  obtain rfl := Option.some.inj first
  exact other

namespace Lexes

variable {a b : List Char} {x y : List Lexeme}

theorem nil : Lexes [] [] := fun rest _ => by simp

theorem append (h : Lexes a x) (h' : Lexes b y) (apart : Apart b) : Lexes (a ++ b) (x ++ y) := by
  intro rest follows
  rw [List.append_assoc, h _ (apart.append follows), h' _ follows, Option.map_map]
  congr 1
  funext lexemes
  exact (List.append_assoc x y lexemes).symm

/-- A text that is read to its end. -/
theorem lex_eq (h : Lexes a x) : lex .between a = some x := by
  have whole := h [] nofun
  rw [List.append_nil] at whole
  rw [whole, lex, Option.map_some, List.append_nil]

/-- A blank is no lexeme. -/
theorem blank (h : Lexes a x) : Lexes (' ' :: a) x := by
  intro rest follows
  rw [List.cons_append, lex, ← h rest follows]
  exact Option.map_id'

/-- A mark is a lexeme by itself. -/
theorem mark {c : Char} (isMark : isMarkChar c = true) (h : Lexes a x) : Lexes (c :: a) (.mark c :: x) := by
  intro rest follows
  simp only [isMarkChar, Bool.and_eq_true, Bool.not_eq_true', bne_iff_ne] at isMark
  obtain ⟨⟨noName, noBlank⟩, noQuote⟩ := isMark
  have start : startLexeme c = ([.mark c], .between) := by
    simp only [startLexeme, noBlank, noName, noQuote, if_false, Bool.false_eq_true]
  rw [List.cons_append, lex, start, h rest follows, Option.map_map]
  rfl

/-- Marks are read one by one. -/
theorem marks {cs : List Char} (all : ∀ c ∈ cs, isMarkChar c = true) : Lexes cs (cs.map .mark) := by
  induction cs with
  | nil => exact nil
  | cons c cs ih =>
    obtain ⟨first, others⟩ := List.forall_mem_cons.1 all
    exact (ih others).mark first

/-- What is read of a name goes on with its other characters. -/
theorem lex_name {cs sofar : List Char} (all : ∀ c ∈ cs, isNameChar c = true) {rest : List Char} (apart : Apart rest) :
    lex (.name sofar) (cs ++ rest) =
      (lex .between rest).map (.name (String.ofList (sofar.reverse ++ cs)) :: ·) := by
  induction cs generalizing sofar with
  | nil =>
    cases rest with
    | nil => simp [lex]
    | cons c rest =>
      have other : isNameChar c = false := apart c rfl
      simp [lex, other, Function.comp_def]
  | cons c cs ih =>
    obtain ⟨first, others⟩ := List.forall_mem_cons.1 all
    rw [List.cons_append, lex, if_pos first, ih others, List.reverse_cons, List.append_assoc, List.singleton_append]

/-- A name is read whole. -/
theorem name {text : String} (some : text ≠ "") (all : ∀ c ∈ text.toList, isNameChar c = true) :
    Lexes text.toList [.name text] := by
  intro rest apart
  have back : String.ofList text.toList = text := String.ofList_toList
  obtain ⟨c, cs, chars⟩ := List.exists_cons_of_ne_nil (mt String.toList_eq_nil_iff.1 some)
  rw [chars] at all back ⊢
  obtain ⟨first, others⟩ := List.forall_mem_cons.1 all
  have noBlank : isBlankChar c = false := isBlankChar_of_isNameChar first
  have start : startLexeme c = ([], .name [c]) := by
    simp only [startLexeme, noBlank, first, if_true, Bool.false_eq_true, if_false]
  rw [List.cons_append, lex, start, lex_name others apart, ← back, Option.map_map]
  rfl

/-- **A string literal is read as the text that it was written for.** -/
theorem literal (text : String) : Lexes (Text.literal text).toList [.literal text] := by
  intro rest _
  have start : startLexeme '"' = ([], .literal [] .plain) := rfl
  have closed : LiteralState.plain.step '"' = .closed := rfl
  rw [Text.literal, String.toList_ofList, List.cons_append, List.cons_append, List.append_assoc, lex, start,
    lex_literalChars, List.singleton_append, lex, closed]
  simp [Function.comp_def]

end Lexes

/-! ## Tokens -/

/-- A word that is read back as itself: a name, or marks. -/
def isCleanWord (text : String) : Bool :=
  text != "" && (text.toList.all isNameChar || text.toList.all isMarkChar)

/-- The lexemes of a word. -/
def wordLexemes (text : String) : List Lexeme :=
  if text.toList.all isNameChar then [.name text] else text.toList.map .mark

theorem lexes_word {text : String} (clean : isCleanWord text = true) : Lexes text.toList (wordLexemes text) := by
  simp only [isCleanWord, Bool.and_eq_true, bne_iff_ne, Bool.or_eq_true] at clean
  unfold wordLexemes
  split
  · next all => exact .name clean.1 (List.all_eq_true.1 all)
  · next other => exact .marks (List.all_eq_true.1 (clean.2.resolve_left other))

/-- The mark that opens a group. -/
def Brackets.opening : Brackets → Char
  | .round => '('
  | .square => '['
  | .curly => '\x7b'

/-- The mark that closes a group. -/
def Brackets.closing : Brackets → Char
  | .round => ')'
  | .square => ']'
  | .curly => '\x7d'

mutual

/-- Whether all words of a token are read back as themselves. -/
def Token.isClean : Token → Bool
  | .word text => isCleanWord text
  | .quoted _ => true
  | .group _ content => Token.areClean content

/-- Whether all words of tokens are read back as themselves. -/
def Token.areClean : List Token → Bool
  | [] => true
  | token :: rest => token.isClean && Token.areClean rest

end

mutual

/-- The lexemes of a token. -/
def Token.lexemes : Token → List Lexeme
  | .word text => wordLexemes text
  | .quoted text => [.literal text]
  | .group brackets content => .mark brackets.opening :: (Token.lexemesAll content ++ [.mark brackets.closing])

/-- The lexemes of tokens. -/
def Token.lexemesAll : List Token → List Lexeme
  | [] => []
  | token :: rest => token.lexemes ++ Token.lexemesAll rest

end

theorem lexemesAll_append (code more : Code) :
    Token.lexemesAll (code ++ more) = Token.lexemesAll code ++ Token.lexemesAll more := by
  induction code with
  | nil => rfl
  | cons token code ih => rw [List.cons_append, Token.lexemesAll, ih, Token.lexemesAll, List.append_assoc]

theorem areClean_append (code more : Code) :
    Token.areClean (code ++ more) = (Token.areClean code && Token.areClean more) := by
  induction code with
  | nil => rfl
  | cons token code ih => rw [List.cons_append, Token.areClean, ih, Token.areClean, Bool.and_assoc]

theorem apart_textMore (tokens : List Token) : Apart (Token.textMore tokens).toList := by
  cases tokens with
  | nil => exact nofun
  | cons token rest =>
    rw [Token.textMore, String.toList_append, String.toList_append]
    exact Apart.cons (by decide) _

mutual

/-- **The text of a token is read as its lexemes.** -/
theorem Token.lexes (token : Token) (clean : token.isClean = true) : Lexes token.text.toList token.lexemes := by
  match token with
  | .word text => exact lexes_word clean
  | .quoted text => exact .literal text
  | .group .round content =>
    have inside := (Token.lexes_textAll content clean).append (Lexes.nil.mark (c := ')') (by decide))
      (Apart.cons (by decide) [])
    simpa [Token.text, Token.lexemes, Brackets.opening, Brackets.closing] using inside.mark (c := '(') (by decide)
  | .group .square content =>
    have inside := (Token.lexes_textAll content clean).append (Lexes.nil.mark (c := ']') (by decide))
      (Apart.cons (by decide) [])
    simpa [Token.text, Token.lexemes, Brackets.opening, Brackets.closing] using inside.mark (c := '[') (by decide)
  | .group .curly [] =>
    exact (Lexes.nil.mark (c := '\x7d') (by decide)).blank.mark (c := '\x7b') (by decide)
  | .group .curly (token :: content) =>
    have inside := (Token.lexes_textAll (token :: content) clean).append
      (Lexes.nil.mark (c := '\x7d') (by decide)).blank (Apart.cons (by decide) _)
    simpa [Token.text, Token.textAll, Token.lexemes, Brackets.opening, Brackets.closing] using
      inside.blank.mark (c := '\x7b') (by decide)

/-- The text of tokens is read as their lexemes. -/
theorem Token.lexes_textAll (tokens : List Token) (clean : Token.areClean tokens = true) :
    Lexes (Token.textAll tokens).toList (Token.lexemesAll tokens) := by
  match tokens with
  | [] => exact .nil
  | token :: rest =>
    rw [Token.areClean, Bool.and_eq_true] at clean
    rw [Token.textAll, String.toList_append]
    exact (Token.lexes token clean.1).append (Token.lexes_textMore rest clean.2) (apart_textMore rest)

theorem Token.lexes_textMore (tokens : List Token) (clean : Token.areClean tokens = true) :
    Lexes (Token.textMore tokens).toList (Token.lexemesAll tokens) := by
  match tokens with
  | [] => exact .nil
  | token :: rest =>
    rw [Token.areClean, Bool.and_eq_true] at clean
    rw [Token.textMore, String.toList_append, String.toList_append]
    exact ((Token.lexes token clean.1).append (Token.lexes_textMore rest clean.2) (apart_textMore rest)).blank

end

/-- **The text of code is read as the lexemes of its tokens.** -/
theorem lex_text {code : Code} (clean : Token.areClean code = true) :
    lex .between code.text.toList = some (Token.lexemesAll code) :=
  (Token.lexes_textAll code clean).lex_eq

end ProcessCompiler
