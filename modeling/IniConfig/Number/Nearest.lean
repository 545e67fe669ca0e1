import IniConfig.Number.Decimal
import IniConfig.Number.Floating

/-!
# The nearest number of a format

A fraction is rounded to the nearest number of a binary format in exact arithmetic: the exponent is
chosen so that the significand has as many digits as the format keeps, the quotient is rounded to
an integer, and a half goes to the even neighbour. A decimal is a fraction, so it is rounded once. A
power whose exponent is negative counts as one, so that a number and its reciprocal can stand on the
two sides of a fraction (`powerUp`).
-/

namespace IniConfig

/-- The base to this power; one if the exponent is negative. -/
def powerUp (base : Nat) (n : Int) : Nat := Nat.pow base n.toNat

/-- The integer nearest to a fraction; a half goes to the even neighbour. -/
def roundHalfEven (num den : Nat) : Nat :=
  let q := num / den
  let r := num % den
  if 2 * r < den ∨ 2 * r = den ∧ q % 2 = 0 then q else q + 1

namespace Floating

/-- The exponent of the last place that a format keeps of a fraction. -/
def lastPlace (f : BinaryFormat) (num den : Nat) : Int :=
  let e : Int := (Nat.log2 num : Int) - Nat.log2 den - f.precision
  let q := num * powerUp 2 (-e) / (den * powerUp 2 e)
  max (if q < twoTo f.precision then e else e + 1) f.leastExponent

/-- The number of the format nearest to a fraction, with this sign. -/
def nearest (f : BinaryFormat) (negative : Bool) (num den : Nat) : Floating :=
  if num = 0 then zero f negative
  else
    let e := lastPlace f num den
    let s := roundHalfEven (num * powerUp 2 (-e)) (den * powerUp 2 e)
    let (s, e) := if s < twoTo f.precision then (s, e) else (s / 2, e + 1)
    if f.greatestExponent < e then infinite negative else finite negative s e

/-- The number of the format nearest to a decimal, with this sign. A decimal beyond all numbers of
the format is known by the powers of two around it, and its power of ten is never computed. -/
def ofDecimal (f : BinaryFormat) (negative : Bool) (d : Decimal) : Floating :=
  if d.digits = 0 ∨ d.unreached < f.leastExponent then zero f negative
  else if f.greatestExponent + f.precision ≤ d.reached then infinite negative
  else nearest f negative (d.digits * powerUp 10 d.exponent) (powerUp 10 (-d.exponent))

end Floating

end IniConfig
