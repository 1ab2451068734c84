import ProcessCompiler.Json.Numeral
import ProcessCompiler.Json.Tree

/-!
# The tree of a text

`Tree.ofText` spells out a text. It always gives a tree: what is wrong with the text stands in it as a fault.
-/

namespace ProcessCompiler.Json

/-- A blank between the parts of JSON text. -/
def isSpace (c : Char) : Bool := c = ' ' || c = '\n' || c = '\t' || c = '\r'

/-- The text after the blanks at its front. -/
def dropSpaces (cs : List Char) : List Char := cs.dropWhile isSpace

/-! ## Strings -/

/-- The value of a digit of base sixteen. -/
def hexValue? (c : Char) : Option Nat :=
  if '0' ≤ c ∧ c ≤ '9' then some (c.toNat - '0'.toNat)
  else if 'a' ≤ c ∧ c ≤ 'f' then some (c.toNat - 'a'.toNat + 10)
  else if 'A' ≤ c ∧ c ≤ 'F' then some (c.toNat - 'A'.toNat + 10)
  else none

/-- The four digits of an escaped code unit. The text ends too early if it has less than four bytes left. -/
def scanUnit (cs : List Char) : Except Fault (Nat × List Char) :=
  if (cs.take 4).foldl (fun n c => n + c.utf8Size) 0 < 4 then .error .endInString
  else
    match cs with
    | a :: b :: c :: d :: rest =>
      match hexValue? a, hexValue? b, hexValue? c, hexValue? d with
      | some a, some b, some c, some d => .ok (((a * 16 + b) * 16 + c) * 16 + d, rest)
      | _, _, _, _ => .error .invalidEscape
    | _ => .error .invalidEscape

/-- The character of an escape of one letter. -/
def shortEscape? (c : Char) : Option Char :=
  if c = '"' then some '"'
  else if c = '\\' then some '\\'
  else if c = '/' then some '/'
  else if c = 'b' then some '\x08'
  else if c = 'f' then some '\x0c'
  else if c = 'n' then some '\n'
  else if c = 'r' then some '\r'
  else if c = 't' then some '\t'
  else none

/-- The character of one escaped code unit, or of two that form a surrogate pair. -/
def scanUnicode (cs : List Char) : Except Fault (Char × List Char) := do
  let (unit, rest) ← scanUnit cs
  if 0xdc00 ≤ unit ∧ unit ≤ 0xdfff then .error .loneSurrogate
  else if unit < 0xd800 ∨ 0xdfff < unit then .ok (Char.ofNat unit, rest)
  else
    match rest with
    | [] => .error .endInString
    | '\\' :: [] => .error .endInString
    | '\\' :: 'u' :: rest =>
      let (low, rest) ← scanUnit rest
      if low < 0xdc00 ∨ 0xdfff < low then .error .loneSurrogate
      else .ok (Char.ofNat (0x10000 + (unit - 0xd800) * 0x400 + (low - 0xdc00)), rest)
    | _ => .error .brokenSurrogatePair

/-- The characters of a string up to its closing quote, and what follows it. -/
def readString : Nat → List Char → Except Fault (List Char × List Char)
  | 0, _ | _, [] => .error .endInString
  | _ + 1, '"' :: rest => .ok ([], rest)
  | _ + 1, '\\' :: [] => .error .endInString
  | fuel + 1, '\\' :: 'u' :: rest => do
    let (c, rest) ← scanUnicode rest
    let (cs, rest) ← readString fuel rest
    pure (c :: cs, rest)
  | fuel + 1, '\\' :: e :: rest =>
    match shortEscape? e with
    | none => .error .invalidEscape
    | some c => do
      let (cs, rest) ← readString fuel rest
      pure (c :: cs, rest)
  | fuel + 1, c :: rest =>
    if c.toNat < 0x20 then .error .controlCharacter
    else do
      let (cs, rest) ← readString fuel rest
      pure (c :: cs, rest)

/-- What follows the closing quote of a string, whatever code units it escapes. -/
def skipString : Nat → List Char → Except Fault (List Char)
  | 0, _ | _, [] => .error .endInString
  | _ + 1, '"' :: rest => .ok rest
  | _ + 1, '\\' :: [] => .error .endInString
  | fuel + 1, '\\' :: 'u' :: rest => do
    let (_, rest) ← scanUnit rest
    skipString fuel rest
  | fuel + 1, '\\' :: e :: rest =>
    match shortEscape? e with
    | none => .error .invalidEscape
    | some _ => skipString fuel rest
  | fuel + 1, c :: rest => if c.toNat < 0x20 then .error .controlCharacter else skipString fuel rest

/-- A string after its opening quote: its value or defect, and what follows it; nothing does if it cannot be passed
over. -/
def scanString (cs : List Char) : Except Defect String × List Char :=
  match readString cs.length cs with
  | .ok (value, rest) => (.ok (String.ofList value), rest)
  | .error reading =>
    match skipString cs.length cs with
    | .ok rest => (.error ⟨reading, none⟩, rest)
    | .error skipping => (.error ⟨reading, some skipping⟩, [])

/-! ## Values -/

/-- A word of the given spelling after its first letter. -/
def scanWord (value : Tree) : List Char → List Char → Tree × List Char
  | [], cs => (value, cs)
  | _ :: _, [] => (.brokenWord .endInValue, [])
  | w :: ws, c :: cs => if w = c then scanWord value ws cs else (.brokenWord .expectedWord, [])

/-- A number after its sign. -/
def scanNumber (negative : Bool) (cs : List Char) : Tree × List Char :=
  match scanNumeral negative cs with
  | .error defect => (.number (.error defect), [])
  | .ok (numeral, rest) =>
    match numeral.toNumber with
    | .ok number => (.number (.ok number), rest)
    | .error fault => (.number (.error ⟨fault, none⟩), rest)

mutual

/-- The value at the front of a text, after blanks, and what follows it. -/
def scanValue : Nat → List Char → Tree × List Char
  | 0, _ => (.absent .endInValue, [])
  | fuel + 1, cs =>
    match dropSpaces cs with
    | [] => (.absent .endInValue, [])
    | 'n' :: rest => scanWord .null ['u', 'l', 'l'] rest
    | 't' :: rest => scanWord (.bool true) ['r', 'u', 'e'] rest
    | 'f' :: rest => scanWord (.bool false) ['a', 'l', 's', 'e'] rest
    | '-' :: rest => scanNumber true rest
    | '"' :: rest =>
      let (value, rest) := scanString rest
      (.string value, rest)
    | '[' :: rest =>
      match dropSpaces rest with
      | [] => (.array [] (.stopped (.both .endInList)), [])
      | ']' :: rest => (.array [] .closed, rest)
      | rest =>
        let (items, ending, rest) := scanItems fuel rest
        (.array items ending, rest)
    | '\x7b' :: rest =>
      match dropSpaces rest with
      | [] => (.keyless (.both .endInObject), [])
      | '\x7d' :: rest => (.object [] .closed, rest)
      | '"' :: rest =>
        let (fields, ending, rest) := scanFields fuel rest
        (.object fields ending, rest)
      | _ :: _ => (.keyless (.both .keyNotString), [])
    | c :: rest => if c.isDigit then scanNumber false (c :: rest) else (.absent .expectedValue, [])

/-- The items of an array up to its end. -/
def scanItems : Nat → List Char → List Tree × Ending × List Char
  | 0, _ => ([], .stopped (.both .endInList), [])
  | fuel + 1, cs =>
    let (item, rest) := scanValue fuel cs
    match dropSpaces rest with
    | [] => ([item], .stopped (.both .endInList), [])
    | ']' :: rest => ([item], .closed, rest)
    | ',' :: rest =>
      match dropSpaces rest with
      | [] => ([item], .stopped (.both .endInValue), [])
      | ']' :: _ => ([item], .stopped ⟨.trailingComma, .expectedValue⟩, [])
      | rest =>
        let (items, ending, rest) := scanItems fuel rest
        (item :: items, ending, rest)
    | _ :: _ => ([item], .stopped (.both .expectedListEnd), [])

/-- The fields of an object up to its end, after the quote that opens the first key. -/
def scanFields : Nat → List Char → List (Except Fault String × Tree) × Ending × List Char
  | 0, _ => ([], .stopped (.both .endInObject), [])
  | fuel + 1, cs =>
    match scanString cs with
    | (.error ⟨reading, some skipping⟩, _) => ([], .stopped ⟨reading, skipping⟩, [])
    | (.error ⟨reading, none⟩, rest) => scanField fuel (.error reading) rest
    | (.ok key, rest) => scanField fuel (.ok key) rest

/-- The field of a key, and the fields after it. -/
def scanField : Nat → Except Fault String → List Char → List (Except Fault String × Tree) × Ending × List Char
  | 0, key, _ => ([(key, .absent .endInObject)], .stopped (.both .endInObject), [])
  | fuel + 1, key, cs =>
    match dropSpaces cs with
    | [] => ([(key, .absent .endInObject)], .stopped (.both .endInObject), [])
    | ':' :: rest =>
      let (value, rest) := scanValue fuel rest
      match dropSpaces rest with
      | [] => ([(key, value)], .stopped (.both .endInObject), [])
      | '\x7d' :: rest => ([(key, value)], .closed, rest)
      | ',' :: rest =>
        match dropSpaces rest with
        | [] => ([(key, value)], .stopped ⟨.endInValue, .endInObject⟩, [])
        | '"' :: rest =>
          let (fields, ending, rest) := scanFields fuel rest
          ((key, value) :: fields, ending, rest)
        | '\x7d' :: _ => ([(key, value)], .stopped ⟨.trailingComma, .keyNotString⟩, [])
        | _ :: _ => ([(key, value)], .stopped (.both .keyNotString), [])
      | _ :: _ => ([(key, value)], .stopped (.both .expectedObjectEnd), [])
    | _ :: _ => ([(key, .absent .expectedColon)], .stopped (.both .expectedColon), [])

end

/-- The tree of a text, and what follows its value. -/
def Tree.ofText (text : String) : Tree × List Char := scanValue (3 * text.length + 3) text.toList

end ProcessCompiler.Json
