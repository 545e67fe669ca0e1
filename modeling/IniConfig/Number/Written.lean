import IniConfig.Number.Shortest

/-!
# Floating-point numbers as text

A finite number is written as the shortest decimal that reads back, in full; a minus sign stands
before all negative numbers, the negative zero included. Any decimal is read, rounded to the
nearest number of the format; the names of what is not finite are read in any case of letters.
-/

namespace IniConfig.Floating

/-- A sign before a text. -/
def withSign (negative : Bool) (t : Text) : Text := if negative then '-' :: t else t

/-- The text that is written for a number of the format. -/
def write (f : BinaryFormat) : Floating → Text
  | nan => ['N', 'a', 'N']
  | infinite negative => withSign negative ['i', 'n', 'f']
  | finite negative significand exponent =>
    withSign negative
      (if significand = 0 then ['0'] else (shortest f significand exponent).render)

/-- The number of the format that a text without a sign says, with this sign. -/
def readUnsigned? (f : BinaryFormat) (negative : Bool) (t : Text) : Option Floating :=
  let word := t.map Char.toLower
  if word = ['n', 'a', 'n'] then some nan
  else if word = ['i', 'n', 'f'] ∨ word = ['i', 'n', 'f', 'i', 'n', 'i', 't', 'y'] then
    some (infinite negative)
  else (Decimal.read? t).map (ofDecimal f negative)

/-- The number of the format that a text says. -/
def read? (f : BinaryFormat) : Text → Option Floating
  | '-' :: t => readUnsigned? f true t
  | '+' :: t => readUnsigned? f false t
  | t => readUnsigned? f false t

/-- One tenth, as the nearest number of 64 bits. -/
example : write .double (ofBits .double 0x3FB999999999999A) = "0.1".toList := by decide +kernel

/-- The negative zero keeps its sign. -/
example : write .double (ofBits .double 0x8000000000000000) = "-0".toList := by decide +kernel

/-- Of two shortest decimals equally near, the greater is written. -/
example : write .double (ofBits .double 0x4310000000000001) = "1125899906842624.3".toList := by
  decide +kernel

/-- Half of the least positive number goes to the even neighbour, which is zero. -/
example : read? .double "2.4703282292062327e-324".toList = some (zero .double false) := by
  decide +kernel

end IniConfig.Floating
