/-
# Binary floating point with 64 bits

Between decimals and floats, in exact arithmetic on natural numbers: the float nearest to a
decimal, a tie going to the even mantissa, and the mantissa and exponent that a float stands
for.
-/

namespace FileActivity.Binary64

/-- The number `mantissa · 2 ^ exponent`. -/
structure Magnitude where
  mantissa : Nat
  exponent : Int
  deriving DecidableEq, Repr

/-- Mantissas of normal floats begin here. -/
def hiddenBit : Nat := Nat.pow 2 52

/-- The exponent of the smallest floats. -/
def minExponent : Int := -1074

/-- The number of exponents, the last of which stands for no finite float. -/
def exponentCount : Nat := 2047

/-! ## From decimals -/

/-- The quotient rounded to the nearest natural number, a tie to the even one. -/
def roundDiv (num den : Nat) : Nat :=
  let q := num / den
  let twice := 2 * (num % den)
  if twice > den || (twice == den && q % 2 == 1) then q + 1 else q

/-- Numerator and denominator of `num / (den · 2 ^ q)`. -/
def scaled (num den : Nat) (q : Int) : Nat × Nat :=
  if q < 0 then (num * Nat.pow 2 q.natAbs, den) else (num, den * Nat.pow 2 q.natAbs)

/-- The magnitude nearest to a positive quotient among those that a float can have. -/
def nearestMagnitude (num den : Nat) : Magnitude :=
  let guess : Int := (num.log2 : Int) - den.log2 - 53
  let (n, d) := scaled num den guess
  let q := max minExponent (if n / d < 2 * hiddenBit then guess else guess + 1)
  let (n, d) := scaled num den q
  let m := roundDiv n d
  if m < 2 * hiddenBit then ⟨m, q⟩ else ⟨m / 2, q + 1⟩

/-- The bits of a magnitude; out of range, those of infinity. -/
def bits (m : Magnitude) : Nat :=
  if m.mantissa < hiddenBit then m.mantissa
  else
    let field := (m.exponent - minExponent).toNat + 1
    if field ≥ exponentCount then exponentCount * hiddenBit
    else field * hiddenBit + (m.mantissa - hiddenBit)

/-- The float nearest to `digits · 10 ^ exponent`, where the number `digits` is written with
`length` digits.  Powers far out of range are settled without being computed. -/
def ofDecimal (digits length : Nat) (exponent : Int) : Float :=
  if digits = 0 ∨ exponent + length < -400 then 0
  else if exponent > 400 then 1 / 0
  else
    let power := Nat.pow 10 exponent.natAbs
    let (num, den) := if exponent < 0 then (digits, power) else (digits * power, 1)
    Float.ofBits (bits (nearestMagnitude num den)).toUInt64

/-! ## To magnitudes -/

/-- The magnitude of a finite float. -/
def magnitude (x : Float) : Magnitude :=
  let n := x.toBits.toNat % Nat.pow 2 63
  let field := n / hiddenBit
  let fraction := n % hiddenBit
  if field = 0 then ⟨fraction, minExponent⟩ else ⟨hiddenBit + fraction, minExponent + field - 1⟩

/-- Whether a float has a minus sign. -/
def isNegative (x : Float) : Bool := x.toBits.toNat ≥ Nat.pow 2 63

end FileActivity.Binary64
