/-!
# Delays

A delay is a number of milliseconds, a duration, or a duration that repeats: an `R`, a count, a slash and the duration.
A duration is a `P`, years, months, weeks and days, and after a `T` hours, minutes and seconds. Each part is a number
and its unit, units come in this order, and only the seconds take a fraction.
-/

namespace ProcessCompiler.Delay

/-- The units of the date part of a duration, in order. -/
def dateUnits : List Char := ['Y', 'M', 'W', 'D']

/-- The units of the time part of a duration, in order. -/
def timeUnits : List Char := ['H', 'M', 'S']

/-- Where the scan of a part stands: before its digits, in them, or in its fraction. -/
inductive Stage where
  | start
  | digits
  | point
  | fraction

/-- The units that may still come after a unit. -/
def unitsAfter (unit : Char) : List Char → Option (List Char)
  | [] => none
  | u :: rest => if u = unit then some rest else unitsAfter unit rest

/-- How many parts there are, if the text has only parts with units from the list, in its order. Parts with `2 ^ 31`
digits or more are outside the model, which counts without a bound. -/
def countParts : Stage → List Char → List Char → Option Nat
  | .start, _, [] => some 0
  | _, _, [] => none
  | .start, units, c :: cs => if c.isDigit then countParts .digits units cs else none
  | .digits, units, c :: cs =>
    if c.isDigit then countParts .digits units cs
    else if c = '.' ∨ c = ',' then countParts .point units cs
    else
      match unitsAfter c units with
      | some units => (countParts .start units cs).map (· + 1)
      | none => none
  | .point, units, c :: cs => if c.isDigit then countParts .fraction units cs else none
  | .fraction, units, c :: cs =>
    if c.isDigit then countParts .fraction units cs
    else if c = 'S' then
      match unitsAfter c units with
      | some units => (countParts .start units cs).map (· + 1)
      | none => none
    else none

/-- The text before and after the first occurrence of a character. -/
def splitAtFirst (separator : Char) : List Char → Option (List Char × List Char)
  | [] => none
  | c :: cs =>
    if c = separator then some ([], cs) else (splitAtFirst separator cs).map fun (before, after) => (c :: before, after)

/-- Whether characters are a duration. -/
def isDuration : List Char → Bool
  | 'P' :: rest =>
    match splitAtFirst 'T' rest with
    | some (date, time) =>
      (countParts .start dateUnits date).isSome && (countParts .start timeUnits time).any (0 < ·)
    | none => (countParts .start dateUnits rest).any (0 < ·)
  | _ => false

/-- Whether characters are a delay. -/
def isDelay : List Char → Bool
  | 'R' :: rest =>
    match splitAtFirst '/' rest with
    | some (count, duration) => count.all Char.isDigit && isDuration duration
    | none => false
  | cs => isDuration cs || (!cs.isEmpty && cs.all Char.isDigit)

/-- Whether a text is a delay. -/
def isLiteral (text : String) : Bool := isDelay text.toList

end ProcessCompiler.Delay
