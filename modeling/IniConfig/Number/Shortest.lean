import IniConfig.Number.Nearest

/-!
# The fewest digits that read back

A finite number of a binary format is written with the fewest decimal digits from which it is read
back, and of those the nearest to it. The reals that round to the number form an interval around
it; on the grid of decimals with one digit, two digits and so on, the two neighbours of the number
are tried, and the first grid with a neighbour in the interval wins. If a grid has any point in the
interval, then it has such a neighbour, since the number itself lies in the interval.
-/

namespace IniConfig

/-- The order of a decimal and an integer times a power of two. -/
def Decimal.compareTo (d : Decimal) (n : Nat) (e : Int) : Ordering :=
  compare (d.digits * powerUp 10 d.exponent * powerUp 2 (-e))
    (n * powerUp 10 (-d.exponent) * powerUp 2 e)

/-- The interval of the reals that round to a number: the end below, the number and the end above,
as multiples of a power of two, and whether the ends round to the number too. -/
structure RoundingInterval where
  low : Nat
  middle : Nat
  high : Nat
  exponent : Int
  closed : Bool
deriving DecidableEq, Repr

namespace RoundingInterval

/-- The interval of a number of the format, in quarters of its last place. The numbers below a
power of two are twice as dense as those above. Halves go to the even significand, so the ends
round to the number if its significand is even. -/
def ofFinite (f : BinaryFormat) (significand : Nat) (exponent : Int) : RoundingInterval where
  low := 4 * significand -
    (if significand = twoTo (f.precision - 1) ∧ f.leastExponent < exponent then 1 else 2)
  middle := 4 * significand
  high := 4 * significand + 2
  exponent := exponent - 2
  closed := significand % 2 = 0

/-- Whether a decimal lies in the interval. -/
def contains (i : RoundingInterval) (d : Decimal) : Bool :=
  match d.compareTo i.low i.exponent, d.compareTo i.high i.exponent with
  | .gt, .lt => true
  | .eq, _ | _, .eq => i.closed
  | _, _ => false

/-- The middle as a fraction. -/
def fraction (i : RoundingInterval) : Nat × Nat :=
  (i.middle * powerUp 2 i.exponent, powerUp 2 (-i.exponent))

/-- The number of decimal digits of the middle before the point; for a middle below one tenth it is
negative, or zero, and counts the zeros after the point. -/
def magnitude (i : RoundingInterval) : Int :=
  let (num, den) := i.fraction
  if den ≤ num then (Text.ofNat (num / den)).length
  else 1 - ((Text.ofNat ((den - 1) / num)).length : Int)

/-- The greatest decimal up to the middle, on the grid of this power of ten. -/
def below (i : RoundingInterval) (k : Int) : Decimal :=
  let (num, den) := i.fraction
  ⟨num * powerUp 10 (-k) / (den * powerUp 10 k), k⟩

/-- Whether the middle is nearer to a decimal than to the next on its grid. -/
def isNearer (i : RoundingInterval) (d : Decimal) : Bool :=
  Decimal.compareTo ⟨2 * d.digits + 1, d.exponent⟩ (2 * i.middle) i.exponent = .gt

/-- Of the two neighbours of the middle on a grid the one in the interval; of two in it the nearer;
of two equally near the greater. -/
def onGrid? (i : RoundingInterval) (k : Int) : Option Decimal :=
  let below := i.below k
  let above : Decimal := ⟨below.digits + 1, k⟩
  match i.contains below, i.contains above with
  | true, true => some (if i.isNearer below then below else above)
  | true, false => some below
  | false, true => some above
  | false, false => none

end RoundingInterval

namespace Floating

/-- The most decimal digits that a number of 64 bits or fewer needs to be read back. -/
def maxDigits : Nat := 17

/-- The decimal with the fewest digits that rounds to a positive number of the format. -/
def shortest (f : BinaryFormat) (significand : Nat) (exponent : Int) : Decimal :=
  let i := RoundingInterval.ofFinite f significand exponent
  let onGrid? (n : Nat) := i.onGrid? (i.magnitude - n)
  ((List.range' 1 maxDigits).findSome? onGrid?).getD
    (i.below (i.magnitude - maxDigits))

end Floating

end IniConfig
