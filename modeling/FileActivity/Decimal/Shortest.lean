/-
# The shortest decimal of a float

The decimal with the fewest digits that still reads back as the same float, and of those the nearest
to it, of two equally near the greater, written without an exponent.
-/
import FileActivity.Decimal.Binary64

namespace FileActivity.Decimal

open Binary64

/-! ## The interval of a float -/

/-- A positive number with the interval of numbers that round to it: three numerators over one
denominator, and whether the ends belong to the interval. -/
structure Interval where
  low : Nat
  value : Nat
  high : Nat
  den : Nat
  closed : Bool

/-- The interval of a magnitude: up to half the distance to its neighbours, of which the lower
one is closer at a power of two. -/
def Interval.ofMagnitude (m : Magnitude) : Interval :=
  let below := if m.mantissa = hiddenBit ∧ minExponent < m.exponent then 1 else 2
  let q := m.exponent - 2
  let up := if q < 0 then 1 else Nat.pow 2 q.natAbs
  { low := (4 * m.mantissa - below) * up
    value := 4 * m.mantissa * up
    high := (4 * m.mantissa + 2) * up
    den := if q < 0 then Nat.pow 2 q.natAbs else 1
    closed := m.mantissa % 2 == 0 }

/-- The interval in units of `10 ^ exponent`. -/
def Interval.scale (i : Interval) (exponent : Int) : Interval :=
  let power := Nat.pow 10 exponent.natAbs
  if exponent < 0 then
    { i with low := i.low * power, value := i.value * power, high := i.high * power }
  else { i with den := i.den * power }

/-- Whether a natural number lies in the interval. -/
def Interval.contains (i : Interval) (n : Nat) : Bool :=
  let x := n * i.den
  if i.closed then i.low ≤ x && x ≤ i.high else i.low < x && x < i.high

/-- The natural number nearest to the value, if it is one of the two neighbours of the value and
lies in the interval; halfway between them, the upper one. -/
def Interval.candidate (i : Interval) : Option Nat :=
  let down := i.value / i.den
  let nearDown := 2 * (i.value % i.den) < i.den
  match i.contains down, i.contains (down + 1) with
  | true, true => some (if nearDown then down else down + 1)
  | true, false => some down
  | false, true => some (down + 1)
  | false, false => none

/-! ## Digits -/

/-- The power of ten of the first digit of a positive quotient. -/
def leadingPower (num den : Nat) : Int :=
  if num ≥ den then ((Nat.toDigits 10 (num / den)).length : Int) - 1
  else small 400 num 0
where
  /-- Counts the zeros before the first digit. -/
  small : Nat → Nat → Int → Int
    | 0, _, power => power
    | fuel + 1, num, power => if num ≥ den then power else small fuel (num * 10) (power - 1)

/-- The shortest decimal of a positive number, as digits and the power of ten of the last one. -/
def shortest (m : Magnitude) : Nat × Int :=
  let i := Interval.ofMagnitude m
  let lead := leadingPower i.value i.den
  let found := (List.range 17).findSome? fun (more : Nat) =>
    let power := lead - (more : Int)
    (i.scale power).candidate.map fun digits => (digits, power)
  found.getD (0, 0)

/-- Writes `digits · 10 ^ power` without an exponent. -/
def positional (digits : Nat) (power : Int) : List Char :=
  let ds := Nat.toDigits 10 digits
  if power ≥ 0 then ds ++ List.replicate power.natAbs '0'
  else
    let places := power.natAbs
    if places < ds.length then ds.take (ds.length - places) ++ '.' :: ds.drop (ds.length - places)
    else '0' :: '.' :: (List.replicate (places - ds.length) '0' ++ ds)

/-- Drops the zeros at the end of a number's digits. -/
def trimZeros : Nat → Nat → Int → Nat × Int
  | 0, digits, power => (digits, power)
  | fuel + 1, digits, power =>
    if digits ≠ 0 ∧ digits % 10 = 0 then trimZeros fuel (digits / 10) (power + 1)
    else (digits, power)

/-- The decimal of a float. -/
def text (x : Float) : String :=
  if x.isNaN then "NaN"
  else
    let sign := if isNegative x then "-" else ""
    if x.isInf then sign ++ "inf"
    else if (magnitude x).mantissa = 0 then sign ++ "0"
    else
      let (digits, power) := shortest (magnitude x)
      let (digits, power) := trimZeros 20 digits power
      sign ++ String.ofList (positional digits power)

/-- The decimal of a float, marked as one by a point. -/
def pointedText (x : Float) : String :=
  let t := text x
  if x.isNaN || x.isInf || t.contains '.' then t else t ++ ".0"

end FileActivity.Decimal
