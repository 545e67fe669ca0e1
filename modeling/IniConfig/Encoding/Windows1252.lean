import IniConfig.Encoding.Decoder

/-!
# The charset windows-1252

A byte is a character. All bytes but those from 80 to 9F stand for the code points of the same
number; for those thirty-two there is a table, in which five keep their number.
-/

namespace IniConfig.Windows1252

/-- The code points of the bytes from 80 to 9F. -/
def middle : List Nat :=
  [0x20AC, 0x0081, 0x201A, 0x0192, 0x201E, 0x2026, 0x2020, 0x2021,
   0x02C6, 0x2030, 0x0160, 0x2039, 0x0152, 0x008D, 0x017D, 0x008F,
   0x0090, 0x2018, 0x2019, 0x201C, 0x201D, 0x2022, 0x2013, 0x2014,
   0x02DC, 0x2122, 0x0161, 0x203A, 0x0153, 0x009D, 0x017E, 0x0178]

/-- The character of a byte. -/
def decodeByte (b : UInt8) : Char :=
  let n := b.toNat
  Char.ofNat (if 0x80 ≤ n ∧ n < 0xA0 then middle.getD (n - 0x80) n else n)

/-- The byte of a character, if it has one. -/
def encodeChar? (c : Char) : Option UInt8 :=
  let n := c.toNat
  if n < 0x80 ∨ 0xA0 ≤ n ∧ n < 0x100 then some (UInt8.ofNat n)
  else (middle.idxOf? n).map fun i => UInt8.ofNat (0x80 + i)

/-- The decoder of windows-1252, which remembers nothing. -/
def decoder : Decoder where
  State := Unit
  start := ()
  read _ b := ([decodeByte b], ())
  finish _ := []

end IniConfig.Windows1252
