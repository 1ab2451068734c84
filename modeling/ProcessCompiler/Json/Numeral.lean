import ProcessCompiler.Json.Value
import ProcessCompiler.Json.Fault

/-!
# Spelt numbers

A numeral is a number as JSON spells it. A whole numeral that fits a machine word of 64 bits is kept exactly. Of any
other, as many digits as fit an unsigned word are taken as a double, and the power of ten that is left is applied to it
by one multiplication or division, or, far below the smallest double, by several divisions.
-/

namespace ProcessCompiler.Json

/-- A number as it is spelt: its digits, and the sign and digits of an exponent. -/
structure Numeral where
  negative : Bool
  whole : List Char
  fraction : Option (List Char)
  exponent : Option (Bool × List Char)

/-- The value of a decimal digit. -/
def digitValue (c : Char) : Nat := c.toNat - '0'.toNat

/-- The value of decimal digits after a number. -/
def digitsValue (start : Nat) (digits : List Char) : Nat := digits.foldl (fun n d => n * 10 + digitValue d) start

/-- Takes digits into a number as long as it stays below `2 ^ 64`; returns it and the digits that are left. -/
def takeDigits (n : Nat) : List Char → Nat × List Char
  | [] => (n, [])
  | d :: rest =>
    if n * 10 + digitValue d < 0x10000000000000000 then takeDigits (n * 10 + digitValue d) rest else (n, d :: rest)

/-- A power of ten up to the three hundred and eighth. -/
def powerOfTen (n : Nat) : Float := Float.ofScientific 1 false n

/-- A double times a power of ten; none if that is too large. -/
def scaleByTen (x : Float) (exponent : Int) : Option Float :=
  if exponent < -308 then
    if x == 0 then some x else scaleByTen (x / powerOfTen 308) (exponent + 308)
  else if 0 ≤ exponent then
    if exponent ≤ 308 then
      let y := x * powerOfTen exponent.toNat
      if y.isInf then none else some y
    else if x == 0 then some x
    else none
  else some (x / powerOfTen (-exponent).toNat)
termination_by (-exponent).toNat

namespace Numeral

/-- The double with a sign. -/
def signed (n : Numeral) (x : Float) : Number := .double (Double.ofFloat (if n.negative then -x else x))

/-- The number as a double. Exponents beyond 31 bits stand for zero, or for a number out of range. -/
def toDouble (n : Numeral) : Except Fault Number :=
  let (whole, more) := takeDigits 0 n.whole
  let (digits, left) := takeDigits whole (n.fraction.getD [])
  let scale : Int := (more.length : Int) - ((n.fraction.getD []).length - left.length : Nat)
  let (up, exponent) := match n.exponent with
    | none => (true, 0)
    | some (up, ds) => (up, digitsValue 0 ds)
  if 0x80000000 ≤ exponent then
    if digits ≠ 0 ∧ up = true then .error .numberOutOfRange else .ok (n.signed 0)
  else
    match scaleByTen digits.toUInt64.toFloat (if up then scale + exponent else scale - exponent) with
    | none => .error .numberOutOfRange
    | some x => .ok (n.signed x)

/-- The number that is spelt. A whole numeral beyond 64 bits is a double, and so is minus zero. -/
def toNumber (n : Numeral) : Except Fault Number :=
  match n.fraction, n.exponent with
  | none, none =>
    let size := digitsValue 0 n.whole
    if n.negative ∧ size = 0 then .ok (n.signed 0)
    else
      match Number.ofInt? (if n.negative then -(size : Int) else size) with
      | some number => .ok number
      | none => n.toDouble
  | _, _ => n.toDouble

end Numeral

/-! ## Scanning -/

/-- Decimal digits at the front, and what follows them. -/
def spanDigits (cs : List Char) : List Char × List Char := (cs.takeWhile Char.isDigit, cs.dropWhile Char.isDigit)

/-- A numeral that breaks off: at the end of the text a reader of values misses one. -/
def numeralDefect : List Char → Defect
  | [] => ⟨.endInValue, some .invalidNumber⟩
  | _ :: _ => ⟨.invalidNumber, some .invalidNumber⟩

/-- The exponent of a numeral, if one stands at the front. -/
def scanExponent : List Char → Except Defect (Option (Bool × List Char) × List Char)
  | [] => .ok (none, [])
  | c :: cs =>
    if c = 'e' ∨ c = 'E' then
      let (up, rest) := match cs with
        | '+' :: rest => (true, rest)
        | '-' :: rest => (false, rest)
        | rest => (true, rest)
      match spanDigits rest with
      | ([], rest) => .error (numeralDefect rest)
      | (digits, rest) => .ok (some (up, digits), rest)
    else .ok (none, c :: cs)

/-- The fraction of a numeral, if one stands at the front. -/
def scanFraction : List Char → Except Defect (Option (List Char) × List Char)
  | '.' :: cs =>
    match spanDigits cs with
    | ([], rest) => .error (numeralDefect rest)
    | (digits, rest) => .ok (some digits, rest)
  | cs => .ok (none, cs)

/-- The whole part of a numeral: no digit follows a leading zero. -/
def scanWhole (cs : List Char) : Except Defect (List Char × List Char) :=
  match spanDigits cs with
  | ([], rest) => .error (numeralDefect rest)
  | ('0' :: _ :: _, _) => .error ⟨.invalidNumber, some .invalidNumber⟩
  | (digits, rest) => .ok (digits, rest)

/-- A numeral after its sign. -/
def scanNumeral (negative : Bool) (cs : List Char) : Except Defect (Numeral × List Char) := do
  let (whole, cs) ← scanWhole cs
  let (fraction, cs) ← scanFraction cs
  let (exponent, cs) ← scanExponent cs
  pure (⟨negative, whole, fraction, exponent⟩, cs)

end ProcessCompiler.Json
