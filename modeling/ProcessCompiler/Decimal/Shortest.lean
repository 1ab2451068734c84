/-!
# The fewest decimal digits that denote a double

A finite double is `m · 2 ^ q`. The reals that round to it form an interval around it, whose ends belong to it exactly
if `m` is even. Of the decimals in that interval `shortest` picks one with the fewest digits, and of those the nearest;
which of two equally near ones it picks is up to the format (`Tie`).
-/

namespace ProcessCompiler.Decimal

/-- The choice between two neighbours on a grid that are equally near: the even one, or the greater one. -/
inductive Tie where
  | even
  | up
  deriving DecidableEq

/-- The choice between a whole number and the next one. -/
def Tie.choose : Tie → Nat → Nat
  | .even, below => if below % 2 = 0 then below else below + 1
  | .up, below => below + 1

/-- A positive rational number, as a quotient. -/
structure Quotient where
  num : Nat
  den : Nat

/-- The quotient times a power of two. -/
def Quotient.scaleTwo (x : Quotient) : Int → Quotient
  | .ofNat k => { x with num := x.num <<< k }
  | .negSucc k => { x with den := x.den <<< (k + 1) }

/-- The quotient times a power of ten. -/
def Quotient.scaleTen (x : Quotient) : Int → Quotient
  | .ofNat k => { x with num := x.num * Nat.pow 10 k }
  | .negSucc k => { x with den := x.den * Nat.pow 10 (k + 1) }

/-- Whether the first quotient is below the second. -/
def Quotient.lt (x y : Quotient) : Bool := x.num * y.den < y.num * x.den

/-- The distance of the quotient to a whole number. -/
def Quotient.distance (x : Quotient) (n : Nat) : Quotient :=
  { x with num := if n * x.den ≤ x.num then x.num - n * x.den else n * x.den - x.num }

/-- The reals that round to one double. -/
structure Interval where
  low : Quotient
  value : Quotient
  high : Quotient
  closed : Bool

/-- Whether a point lies in the interval. -/
def Interval.has (i : Interval) (x : Quotient) : Bool :=
  (i.low.lt x && x.lt i.high) || (i.closed && !x.lt i.low && !i.high.lt x)

/-- The interval of `m · 2 ^ q`; below a power of two the doubles lie twice as close, except at the smallest ones. -/
def Interval.ofDouble (m : Nat) (q : Int) : Interval :=
  let narrow := m = 0x10000000000000 ∧ -1074 < q
  { low := if narrow then Quotient.scaleTwo ⟨4 * m - 1, 1⟩ (q - 2) else Quotient.scaleTwo ⟨2 * m - 1, 1⟩ (q - 1)
    value := Quotient.scaleTwo ⟨m, 1⟩ q
    high := Quotient.scaleTwo ⟨2 * m + 1, 1⟩ (q - 1)
    closed := m % 2 = 0 }

/-- The point of the grid of multiples of `10 ^ e` that lies in the interval and nearest to its value, in units of that
grid. -/
def Interval.onGrid (i : Interval) (tie : Tie) (e : Int) : Option Nat :=
  let scaled := i.value.scaleTen (-e)
  let below := scaled.num / scaled.den
  let lies (n : Nat) : Bool := n ≠ 0 && i.has (Quotient.scaleTen ⟨n, 1⟩ e)
  let above := below + 1
  match lies below, lies above with
  | false, false => none
  | true, false => some below
  | false, true => some above
  | true, true =>
    if (scaled.distance below).lt (scaled.distance above) then some below
    else if (scaled.distance above).lt (scaled.distance below) then some above
    else some (tie.choose below)

/-- How many decimal digits a number has. -/
def digitCount (n : Nat) : Nat := (Nat.toDigits 10 n).length

/-- The exponent of the power of ten at or below the quotient. -/
def Quotient.magnitude (x : Quotient) : Int :=
  let guess : Int := (digitCount x.num : Int) - digitCount x.den
  if x.lt (Quotient.scaleTen ⟨1, 1⟩ guess) then guess - 1 else guess

/-- The first grid that has a point in the interval, starting with `count` digits and trying `fuel` grids. -/
def Interval.search (i : Interval) (tie : Tie) (magnitude : Int) (count : Nat) : Nat → Nat × Int
  | 0 => (0, 0)
  | fuel + 1 =>
    let e := magnitude + 1 - count
    match i.onGrid tie e with
    | some n => (n, e)
    | none => i.search tie magnitude (count + 1) fuel

/-- Takes the zeros at the end of a number into the exponent. -/
def dropZeros : Nat → Nat → Int → Nat × Int
  | 0, n, e => (n, e)
  | fuel + 1, n, e => if n ≠ 0 ∧ n % 10 = 0 then dropZeros fuel (n / 10) (e + 1) else (n, e)

/-- The shortest decimal of the double `m · 2 ^ q`, with `0 < m`: its digits and the exponent of the last one. Seventeen
digits always suffice. -/
def shortest (tie : Tie) (m : Nat) (q : Int) : Nat × Int :=
  let i := Interval.ofDouble m q
  let (n, e) := i.search tie i.value.magnitude 1 17
  dropZeros 17 n e

/-! ## Layout -/

/-- The digits of a number whose last one has exponent `e`, without an exponent: zeros fill up to the point. -/
def positional (digits : List Char) (e : Int) : List Char × List Char :=
  match e with
  | .ofNat k => (digits ++ List.replicate k '0', [])
  | .negSucc k =>
    let places := k + 1
    if places < digits.length then (digits.take (digits.length - places), digits.drop (digits.length - places))
    else (['0'], List.replicate (places - digits.length) '0' ++ digits)

end ProcessCompiler.Decimal
