import IniConfig.Number.Integer

/-!
# Floating-point numbers

A binary format, a number in it as sign, significand and exponent, and the words of bits that hold
such numbers.
-/

namespace IniConfig

/-- A binary format: the binary digits of a significand, and those of the exponent's field. -/
structure BinaryFormat where
  precision : Nat
  exponentWidth : Nat
deriving DecidableEq, Repr

namespace BinaryFormat

def double : BinaryFormat := ⟨53, 11⟩

def single : BinaryFormat := ⟨24, 8⟩

/-- The field of the exponent zero. -/
def bias (f : BinaryFormat) : Int := (twoTo (f.exponentWidth - 1) : Int) - 1

/-- The exponent of the last place of the smallest numbers. -/
def leastExponent (f : BinaryFormat) : Int := 2 - f.bias - f.precision

/-- The exponent of the last place of the greatest finite numbers. -/
def greatestExponent (f : BinaryFormat) : Int := f.bias + 1 - f.precision

end BinaryFormat

/-- A floating-point number. A finite one is its significand times two to its exponent; the sign
stands apart, since there are two zeros. -/
inductive Floating where
  | nan
  | infinite (negative : Bool)
  | finite (negative : Bool) (significand : Nat) (exponent : Int)
deriving DecidableEq, Repr

namespace Floating

/-- The zero of a format with this sign. -/
def zero (f : BinaryFormat) (negative : Bool) : Floating := finite negative 0 f.leastExponent

/-- The number that a word holds: from the top its sign, the exponent's field and the fraction. A
field of ones is kept for what is not finite; a field of zeros has the least exponent and no
hidden digit. -/
def ofBits (f : BinaryFormat) (word : Nat) : Floating :=
  let hidden := twoTo (f.precision - 1)
  let fields := twoTo f.exponentWidth
  let fraction := word % hidden
  let field := word / hidden % fields
  let negative := word / hidden / fields % 2 = 1
  if field + 1 = fields then if fraction = 0 then infinite negative else nan
  else if field = 0 then finite negative fraction f.leastExponent
  else finite negative (hidden + fraction) (f.leastExponent + field - 1)

/-- The word that holds a number of the format. -/
def toBits (f : BinaryFormat) (x : Floating) : Nat :=
  let hidden := twoTo (f.precision - 1)
  let fields := twoTo f.exponentWidth
  let word (negative : Bool) (field fraction : Nat) : Nat :=
    ((if negative then fields else 0) + field) * hidden + fraction
  match x with
  | nan => word false (fields - 1) (hidden / 2)
  | infinite negative => word negative (fields - 1) 0
  | finite negative significand exponent =>
    if significand < hidden then word negative 0 significand
    else word negative (exponent - f.leastExponent + 1).toNat (significand - hidden)

end Floating

end IniConfig
