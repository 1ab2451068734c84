import ProcessCompiler.Proofs.Literals
import ProcessCompiler.Proofs.Origins

/-!
# Values read back from their code

The code of a value is an expression of the generated program. Here such expressions are evaluated from their text: the
constructors of values with the literals in them, and the parser of JSON, which is left open. The code of every value
without doubles evaluates to the value, so that no two of these values have one code.

* `evaluateText`: the value of an expression.
* `evaluate_integer`: whole numbers, behind their sign and with their type.
* `evaluateText_code`: the code of a value evaluates to the value.
* `code_faithful`: with it, values whose codes have one text are one value.
-/

namespace ProcessCompiler

open Json

/-! ## Expressions -/

/-- The names of a path behind the first one, and what stands behind them. -/
def readNames : List Lexeme → List String × List Lexeme
  | .mark ':' :: .mark ':' :: .name name :: rest => (name :: (readNames rest).1, (readNames rest).2)
  | rest => ([], rest)

/-- The names of a path, and what stands behind it. -/
def readPath : List Lexeme → List String × List Lexeme
  | .name name :: rest => (name :: (readNames rest).1, (readNames rest).2)
  | rest => ([], rest)

/-- Whether the type that digits have leaves room for a number. One with a sign is of the type with signs. -/
def hasRoom (negative : Bool) (value : Int) : List Char → Bool
  | ['i', '6', '4'] => -0x8000000000000000 ≤ value && value < 0x8000000000000000
  | ['u', '6', '4'] => !negative && value < 0x10000000000000000
  | _ => false

/-- A whole number of 64 bits: decimal digits behind a sign or none, and then the type that they have. -/
def readWhole (negative : Bool) (text : String) : Option Int :=
  let digits := text.toList.takeWhile Char.isDigit
  let value : Int := if negative then -(digitsValue 0 digits : Int) else digitsValue 0 digits
  if !digits.isEmpty && hasRoom negative value (text.toList.drop digits.length) then some value else none

/-- The argument of the constructor of a number, and what closes both calls. -/
def evaluateNumber : List Lexeme → Option Value
  | [.name text, .mark ')', .mark ')'] => (readWhole false text).bind fun n => (Number.ofInt? n).map .number
  | [.mark '-', .name text, .mark ')', .mark ')'] =>
    (readWhole true text).bind fun n => (Number.ofInt? n).map .number
  | _ => none

/-- **The value of an expression**, given what the parser of JSON makes of a text: null, a truth value, a number from a
whole number, a string from a literal, or what a literal is parsed as, with null for one that is not parsed. -/
def evaluate (parse : String → Option Value) (lexemes : List Lexeme) : Option Value :=
  match readPath lexemes with
  | (["serde_json", "Value", "Null"], []) => some .null
  | (["serde_json", "Value", "Bool"], [.mark '(', .name "true", .mark ')']) => some (.bool true)
  | (["serde_json", "Value", "Bool"], [.mark '(', .name "false", .mark ')']) => some (.bool false)
  | (["serde_json", "Value", "Number"], .mark '(' :: rest) =>
    match readPath rest with
    | (["serde_json", "Number", "from"], .mark '(' :: argument) => evaluateNumber argument
    | _ => none
  | (["serde_json", "Value", "String"],
      [.mark '(', .literal text, .mark '.', .name "to_string", .mark '(', .mark ')', .mark ')']) => some (.string text)
  | (["serde_json", "from_str"], .mark ':' :: .mark ':' :: .mark '<' :: rest) =>
    match readPath rest with
    | (["serde_json", "Value"], .mark '>' :: .mark '(' :: .literal text :: .mark ')' :: .mark '.' ::
        .name "unwrap_or" :: .mark '(' :: rest) =>
      match readPath rest with
      | (["serde_json", "Value", "Null"], [.mark ')']) => some ((parse text).getD .null)
      | _ => none
    | _ => none
  | _ => none

/-- The value of an expression, from its text. -/
def evaluateText (parse : String → Option Value) (text : String) : Option Value :=
  (lex .between text.toList).bind (evaluate parse)

/-! ## Numbers -/

/-- The name of a whole number: its digits, and the type that they have. -/
def wholeName (n : Nat) (kind : String) : String := String.ofList (Nat.toDigits 10 n) ++ kind

section Numbers

variable {n : Nat} {kind : String}

theorem toList_wholeName (n : Nat) (kind : String) : (wholeName n kind).toList = Nat.toDigits 10 n ++ kind.toList := by
  rw [wholeName, String.toList_append, String.toList_ofList]

theorem isDigit_of_mem_toDigits {c : Char} (mem : c ∈ Nat.toDigits 10 n) : c.isDigit = true :=
  Nat.isDigit_of_mem_toDigits (by decide) (by decide) mem

theorem all_isNameChar_wholeName (names : kind.toList.all isNameChar = true) :
    (wholeName n kind).toList.all isNameChar = true := by
  rw [toList_wholeName, List.all_append, names, Bool.and_true, List.all_eq_true]
  intro c mem
  simp [isNameChar, Char.isAlphanum, isDigit_of_mem_toDigits mem]

theorem isCleanWord_wholeName (names : kind.toList.all isNameChar = true) : isCleanWord (wholeName n kind) = true := by
  have some : wholeName n kind ≠ "" := by
    intro none
    have chars := congrArg String.toList none
    rw [toList_wholeName] at chars
    exact Nat.toDigits_ne_nil (List.append_eq_nil_iff.1 chars).1
  rw [isCleanWord, all_isNameChar_wholeName names, Bool.true_or, Bool.and_true, bne_iff_ne]
  exact some

/-- The digits of a whole number end where its type begins. -/
theorem takeWhile_wholeName (n : Nat) (stop : kind.toList.takeWhile Char.isDigit = []) :
    (wholeName n kind).toList.takeWhile Char.isDigit = Nat.toDigits 10 n := by
  rw [toList_wholeName, List.takeWhile_append_of_pos fun c => isDigit_of_mem_toDigits, stop, List.append_nil]

end Numbers

/-- A whole number of a type with room for it is read as itself. -/
theorem readWhole_wholeName {negative : Bool} {n : Nat} {value : Int} {kind : String}
    (same : (if negative = true then -(n : Int) else (n : Int)) = value)
    (stop : kind.toList.takeWhile Char.isDigit = []) (room : hasRoom negative value kind.toList = true) :
    readWhole negative (wholeName n kind) = some value := by
  have some : (Nat.toDigits 10 n).isEmpty = false := List.isEmpty_eq_false_iff.2 Nat.toDigits_ne_nil
  have rest : (wholeName n kind).toList.drop (Nat.toDigits 10 n).length = kind.toList := by
    rw [toList_wholeName, List.drop_left]
  simp only [readWhole, takeWhile_wholeName n stop, digitsValue_toDigits, same, some, rest, room, Bool.not_false,
    Bool.and_self, if_true]

/-- The lexemes of a whole number behind its sign. -/
theorem lexemesAll_signedLiteral (negative : Bool) (n : Nat) {kind : String}
    (names : kind.toList.all isNameChar = true) :
    Token.lexemesAll (signedLiteral negative (wholeName n kind)) =
      if negative then [.mark '-', .name (wholeName n kind)] else [.name (wholeName n kind)] := by
  have word : wordLexemes (wholeName n kind) = [.name (wholeName n kind)] :=
    if_pos (all_isNameChar_wholeName names)
  have sign : wordLexemes "-" = [.mark '-'] := rfl
  cases negative <;> simp [signedLiteral, Code.words, Token.lexemesAll, Token.lexemes, word, sign]

/-! ## Codes of values -/

theorem evaluate_null (parse : String → Option Value) :
    evaluate parse (Token.lexemesAll Value.null.code) = some .null := rfl

theorem evaluate_bool (parse : String → Option Value) (b : Bool) :
    evaluate parse (Token.lexemesAll (Value.bool b).code) = some (.bool b) := by
  cases b <;> rfl

theorem evaluate_string (parse : String → Option Value) (text : String) :
    evaluate parse (Token.lexemesAll (Value.string text).code) = some (.string text) := rfl

theorem evaluate_parsedText (parse : String → Option Value) (text : String) :
    evaluate parse (Token.lexemesAll (parsedText text)) = some ((parse text).getD .null) := rfl

/-- A number is what the argument of its constructor is. -/
theorem evaluate_numberCode (parse : String → Option Value) (argument : Code) :
    evaluate parse (Token.lexemesAll (valuePath "Number" ++
      Code.arguments [Code.path ["serde_json", "Number", "from"] ++ Code.arguments [argument]])) =
      evaluateNumber (Token.lexemesAll argument ++ [.mark ')', .mark ')']) := by
  have group : Token.lexemesAll (Code.arguments [Code.path ["serde_json", "Number", "from"] ++
      Code.arguments [argument]]) =
      .mark '(' :: (Token.lexemesAll (Code.path ["serde_json", "Number", "from"]) ++
        .mark '(' :: (Token.lexemesAll argument ++ [.mark ')', .mark ')'])) := by
    simp [Code.arguments, Code.commaSeparated, Token.lexemesAll, Token.lexemes, lexemesAll_append, Brackets.opening,
      Brackets.closing]
  rw [lexemesAll_append, group]
  rfl

/-- The argument of the constructor of a number, behind its sign. -/
theorem evaluateNumber_signed (negative : Bool) (text : String) :
    evaluateNumber ((if negative then [.mark '-', .name text] else [.name text]) ++ [.mark ')', .mark ')']) =
      (readWhole negative text).bind fun n => (Number.ofInt? n).map .number := by
  cases negative <;> rfl

/-- The type that the code of a number has. -/
def kindOf (value : Int) : String := if value < 0x8000000000000000 then "i64" else "u64"

theorem all_isNameChar_kindOf (value : Int) : (kindOf value).toList.all isNameChar = true := by
  unfold kindOf
  split <;> rfl

theorem takeWhile_kindOf (value : Int) : (kindOf value).toList.takeWhile Char.isDigit = [] := by
  unfold kindOf
  split <;> rfl

/-- The type of a number has room for it. -/
theorem hasRoom_kindOf {value : Int} (bounds : -0x8000000000000000 ≤ value ∧ value < 0x10000000000000000) :
    hasRoom (value < 0) value (kindOf value).toList = true := by
  unfold kindOf
  split
  · next small => simp [hasRoom, bounds.1, small]
  · next large =>
    have positive : ¬ value < 0 := by omega
    simp [hasRoom, bounds.2, positive]

/-- **The code of a whole number evaluates to it.** -/
theorem evaluate_integer (parse : String → Option Value) (value : Int)
    (bounds : -0x8000000000000000 ≤ value ∧ value < 0x10000000000000000) :
    evaluate parse (Token.lexemesAll (Value.number (.integer value bounds)).code) =
      some (.number (.integer value bounds)) := by
  have whole : readWhole (value < 0) (wholeName value.natAbs (kindOf value)) = some value := by
    refine readWhole_wholeName ?_ (takeWhile_kindOf value) (hasRoom_kindOf bounds)
    simp only [decide_eq_true_eq]
    split <;> omega
  refine (evaluate_numberCode parse (signedLiteral (value < 0) (wholeName value.natAbs (kindOf value)))).trans ?_
  rw [lexemesAll_signedLiteral _ _ (all_isNameChar_kindOf value), evaluateNumber_signed, whole, Option.bind_some,
    ofInt?_eq_some bounds, Option.map_some]

/-- **The code of a value evaluates to the value**, if the text of an array or object is parsed as it. -/
theorem evaluate_code {parse : String → Option Value} {v : Value} (exact : v.isExact = true)
    (parsed : parse v.compact = some v) : evaluate parse (Token.lexemesAll v.code) = some v := by
  have nested : evaluate parse (Token.lexemesAll (parsedText v.compact)) = some v := by
    rw [evaluate_parsedText, parsed, Option.getD_some]
  cases v with
  | null => exact evaluate_null parse
  | bool b => exact evaluate_bool parse b
  | number n =>
    cases n with
    | integer value bounds => exact evaluate_integer parse value bounds
    | double _ => cases exact
  | string text => exact evaluate_string parse text
  | array _ | object _ => exact nested

/-! ## Texts of codes -/

theorem areClean_numberCode {argument : Code} (clean : Token.areClean argument = true) :
    Token.areClean (valuePath "Number" ++
      Code.arguments [Code.path ["serde_json", "Number", "from"] ++ Code.arguments [argument]]) = true := by
  have group : Token.areClean (Code.arguments [Code.path ["serde_json", "Number", "from"] ++
      Code.arguments [argument]]) = true := by
    simp only [Code.arguments, Code.commaSeparated, Token.areClean, Token.isClean, areClean_append, clean]
    rfl
  rw [areClean_append, group]
  rfl

/-- All words of the code of a whole number are read back as themselves. -/
theorem areClean_signedLiteral (negative : Bool) (n : Nat) {kind : String} (names : kind.toList.all isNameChar = true) :
    Token.areClean (signedLiteral negative (wholeName n kind)) = true := by
  have clean : isCleanWord (wholeName n kind) = true := isCleanWord_wholeName names
  have sign : isCleanWord "-" = true := rfl
  cases negative <;> simp [signedLiteral, Code.words, Token.areClean, Token.isClean, clean, sign]

/-- All words of the code of a value are read back as themselves. -/
theorem areClean_code {v : Value} (exact : v.isExact = true) : Token.areClean v.code = true := by
  cases v with
  | null => rfl
  | bool b => cases b <;> rfl
  | number n =>
    cases n with
    | integer value _ =>
      exact areClean_numberCode (areClean_signedLiteral (value < 0) value.natAbs (all_isNameChar_kindOf value))
    | double _ => cases exact
  | string text => rfl
  | array _ | object _ => rfl

/-- The text of the code of a value evaluates to the value, if the text of an array or object is parsed as it. -/
theorem evaluateText_code {parse : String → Option Value} {v : Value} (exact : v.isExact = true)
    (parsed : parse v.compact = some v) : evaluateText parse v.code.text = some v := by
  rw [evaluateText, lex_text (areClean_code exact), Option.bind_some]
  exact evaluate_code exact parsed

/-! ## Values of trees -/

namespace Json.Tree

mutual

/-- The value that a tree is the tree of. -/
def value? : Tree → Option Value
  | .null => some .null
  | .bool value => some (.bool value)
  | .number (.ok value) => some (.number value)
  | .string (.ok value) => some (.string value)
  | .array items .closed => (values? items).map .array
  | .object fields .closed => (fields? fields).map .object
  | _ => none

/-- The values that trees are the trees of. -/
def values? : List Tree → Option (List Value)
  | [] => some []
  | tree :: rest => tree.value?.bind fun value => (values? rest).map (value :: ·)

/-- The fields that trees are the trees of. -/
def fields? : List (Except Fault String × Tree) → Option (List (String × Value))
  | [] => some []
  | (.ok key, tree) :: rest => tree.value?.bind fun value => (fields? rest).map ((key, value) :: ·)
  | (.error _, _) :: _ => none

end

mutual

theorem value?_ofValue (v : Value) : (ofValue v).value? = some v := by
  match v with
  | .null | .bool _ | .number _ | .string _ => rfl
  | .array items => rw [ofValue, value?, values?_ofItems items, Option.map_some]
  | .object fields => rw [ofValue, value?, fields?_ofFields fields, Option.map_some]

theorem values?_ofItems (items : List Value) : values? (ofItems items) = some items := by
  match items with
  | [] => rfl
  | item :: items =>
    rw [ofItems, values?, value?_ofValue item, Option.bind_some, values?_ofItems items, Option.map_some]

theorem fields?_ofFields (fields : List (String × Value)) : fields? (ofFields fields) = some fields := by
  match fields with
  | [] => rfl
  | (key, value) :: fields =>
    rw [ofFields, fields?, value?_ofValue value, Option.bind_some, fields?_ofFields fields, Option.map_some]

end

end Json.Tree

/-- What a text spells, without a limit on how deep it is nested. -/
def parseTree (text : String) : Option Value := (Tree.ofText text).1.value?

/-- The compact text of a value spells the value. -/
theorem parseTree_compact {v : Value} (exact : v.isExact = true) : parseTree v.compact = some v := by
  rw [parseTree, Tree.ofText_compact v exact, Tree.value?_ofValue]

/-- The parser of values reads the compact text of a value as the value, within the room that a text has. -/
theorem toOption_ofText_compact {v : Value} (exact : v.isExact = true) (shallow : (Tree.ofValue v).height ≤ 127)
    (sorted : v.sorted = v) : (Value.ofText v.compact).toOption = some v := by
  rw [Value.ofText_compact exact shallow, sorted]
  rfl

/-! ## Faithfulness -/

/-- **The code of a value is faithful to it.** Its text evaluates to the value, given that the parser reads the text of
the value as the value, and values whose codes have one text are one value, however deep they are nested. -/
theorem code_faithful (v : Value) (exact : v.isExact = true) :
    (∀ parse : String → Option Value, parse v.compact = some v → evaluateText parse v.code.text = some v) ∧
    ∀ w : Value, w.isExact = true → w.code.text = v.code.text → w = v := by
  refine ⟨fun parse parsed => evaluateText_code exact parsed, fun w exact' same => ?_⟩
  have left : evaluateText parseTree w.code.text = some w := evaluateText_code exact' (parseTree_compact exact')
  have right : evaluateText parseTree v.code.text = some v := evaluateText_code exact (parseTree_compact exact)
  rw [same, right] at left
  exact (Option.some.inj left).symm

/-- A value with the least and the greatest whole number, and strings with characters that are escaped in one text or in
both. -/
def escapedValue : Value :=
  .array [.number (.integer (-0x8000000000000000) (by decide)), .number (.integer 0xFFFFFFFFFFFFFFFF (by decide)),
    .object [("\"\\", .string "\\n\n\r\x00\x30\x7fé😀"), ("n", .array [.null, .bool false, .string "\\\""])]]

/-- A value that differs from it in one character. -/
def escapedValueAgain : Value :=
  .array [.number (.integer (-0x8000000000000000) (by decide)), .number (.integer 0xFFFFFFFFFFFFFFFF (by decide)),
    .object [("\"\\", .string "\\\n\n\r\x00\x30\x7fé😀"), ("n", .array [.null, .bool false, .string "\\\""])]]

theorem code_faithful_escaped :
    escapedValue.isExact = true ∧ (Value.ofText escapedValue.compact).toOption = some escapedValue ∧
    evaluateText (fun text => (Value.ofText text).toOption) escapedValue.code.text = some escapedValue ∧
    escapedValueAgain.code.text ≠ escapedValue.code.text := by
  have exact : escapedValue.isExact = true := rfl
  have parsed : (Value.ofText escapedValue.compact).toOption = some escapedValue :=
    toOption_ofText_compact exact (by decide) rfl
  refine ⟨exact, parsed, (code_faithful escapedValue exact).1 _ parsed, fun same => ?_⟩
  have one : escapedValueAgain = escapedValue := (code_faithful escapedValue exact).2 _ rfl same
  simp [escapedValueAgain, escapedValue] at one

end ProcessCompiler
