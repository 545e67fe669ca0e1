import IniConfig.Number.Integer

/-!
# Decimals

A decimal is an integer times a power of ten. It is read with a point and an exponent at will, and
written in full, without an exponent. Of an exponent no more digits are counted than make it great:
`1e655360` is read as `1e65536`.
-/

namespace IniConfig

/-- A decimal: its digits without the point, and the power of ten of the last of them. -/
structure Decimal where
  digits : Nat
  exponent : Int
deriving DecidableEq, Repr

namespace Decimal

/-- The exponent of a power of two that a positive decimal reaches: ten is more than three factors
of two, and less than four. -/
def reached (d : Decimal) : Int :=
  d.digits.log2 + (if 0 ≤ d.exponent then 3 else 4) * d.exponent

/-- The exponent of a power of two that a decimal stays below. -/
def unreached (d : Decimal) : Int :=
  d.digits.log2 + 1 + (if 0 ≤ d.exponent then 4 else 3) * d.exponent

/-- An exponent that is great enough for all purposes. -/
def greatExponent : Nat := 65536

/-- The number that the digits of an exponent say. Once they have said a great exponent, those that
follow count for nothing. -/
def exponentNumber (t : Text) : Nat :=
  t.foldl (fun n c => if n < greatExponent then 10 * n + (c.toNat - '0'.toNat) else n) 0

/-- The exponent that a text of one digit or more says. -/
def readExponentDigits? (t : Text) : Option Int :=
  if t ≠ [] ∧ t.all Char.isDigit then some (exponentNumber t) else none

/-- The exponent that a text says: nothing, or `e`, a sign at will and digits. -/
def readExponent? : Text → Option Int
  | [] => some 0
  | c :: t =>
    if c = 'e' ∨ c = 'E' then
      match t with
      | '-' :: t => (readExponentDigits? t).map (- ·)
      | '+' :: t => readExponentDigits? t
      | t => readExponentDigits? t
    else none

/-- The digits after a point, if there is one, and the rest. -/
def splitFraction : Text → Text × Text
  | '.' :: t => (t.takeWhile Char.isDigit, t.dropWhile Char.isDigit)
  | t => ([], t)

/-- The decimal that a text without a sign says: digits with a point at will, at least one digit,
and an exponent at will. -/
def read? (t : Text) : Option Decimal := do
  let (fraction, rest) := splitFraction (t.dropWhile Char.isDigit)
  let digits ← IntegerType.readDigits? (t.takeWhile Char.isDigit ++ fraction)
  let exponent ← readExponent? rest
  return ⟨digits, exponent - fraction.length⟩

/-- The decimal in full. Zeros stand in for the places that its digits do not reach, and none ends
a fraction. -/
def render (d : Decimal) : Text :=
  let digits := Text.ofNat d.digits
  if 0 ≤ d.exponent then digits ++ List.replicate d.exponent.toNat '0'
  else
    let places := (-d.exponent).toNat
    let padded := List.replicate (places + 1 - digits.length) '0' ++ digits
    let whole := padded.take (padded.length - places)
    let fraction := (padded.drop (padded.length - places)).reverse.dropWhile (· = '0')
    if fraction = [] then whole else whole ++ '.' :: fraction.reverse

/-- The sixth digit counts, since five of them say less than a great exponent. -/
example : readExponent? "e655359".toList = some 655359 := by decide

/-- The sixth digit does not count, since five of them say a great exponent. -/
example : readExponent? "E-655360".toList = some (-65536) := by decide

end Decimal

end IniConfig
