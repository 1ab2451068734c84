import ProcessCompiler.Decimal.Shortest

/-!
# Doubles, as JSON text and as literals

A double is kept as its bits, so that equality is identity. JSON text and literals both write the fewest digits, and
differ in the layout and in ties: `Double.text` has a mark of fraction or an exponent and prefers an even last digit,
`Double.plain` has neither mark and rounds up.
-/

namespace ProcessCompiler.Json

/-- A number of double precision, by its bits. -/
structure Double where
  bits : UInt64
  deriving DecidableEq

namespace Double

/-- The double of a machine number. -/
def ofFloat (x : Float) : Double := ⟨x.toBits⟩

/-- The machine number of a double. -/
def toFloat (x : Double) : Float := Float.ofBits x.bits

/-- Whether the sign is set, also on a zero. -/
def isNegative (x : Double) : Bool := x.bits >>> 63 == 1

/-- The whole factor `m` and the exponent `q` of the size `m · 2 ^ q`. -/
def parts (x : Double) : Nat × Int :=
  let biased := ((x.bits >>> 52) &&& 0x7ff).toNat
  let fraction := (x.bits &&& 0xfffffffffffff).toNat
  if biased = 0 then (fraction, -1074) else (0x10000000000000 + fraction, (biased : Int) - 1075)

/-- The digits of the size, and the exponent of the last one; of two shortest sizes equally near, `tie` chooses. -/
def digits (x : Double) (tie : Decimal.Tie) : List Char × Int :=
  let (m, q) := x.parts
  if m = 0 then (['0'], 0)
  else
    let (n, e) := Decimal.shortest tie m q
    (Nat.toDigits 10 n, e)

/-- The size without an exponent and without a point that nothing follows. -/
def plain (x : Double) : String :=
  let (ds, e) := x.digits .up
  let (whole, fraction) := Decimal.positional ds e
  String.ofList (if fraction = [] then whole else whole ++ '.' :: fraction)

/-- The exponent of a number in scientific notation, with its sign. -/
def exponentText : Int → List Char
  | .ofNat k => 'e' :: '+' :: Nat.toDigits 10 k
  | .negSucc k => 'e' :: '-' :: Nat.toDigits 10 (k + 1)

/-- The size as JSON text: positional from `0.00001` up to below `1e+16`, always with a point; else scientific. -/
def sizeText (x : Double) : List Char :=
  let (ds, e) := x.digits .even
  let leading := e + ds.length - 1
  if x.parts.1 = 0 ∨ (-5 ≤ leading ∧ leading < 16) then
    let (whole, fraction) := Decimal.positional ds e
    whole ++ '.' :: (if fraction = [] then ['0'] else fraction)
  else
    match ds with
    | [] => []
    | [d] => d :: exponentText leading
    | d :: rest => d :: '.' :: rest ++ exponentText leading

/-- The double as JSON text. -/
def text (x : Double) : String :=
  String.ofList (if x.isNegative then '-' :: x.sizeText else x.sizeText)

end Double

end ProcessCompiler.Json
