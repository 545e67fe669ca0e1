import IniConfig.Encoding.Decoder

/-!
# UTF-16

A character is one unit of sixteen bits or a pair of surrogates, and a unit is two bytes in one of
two orders. A surrogate without its partner is one replacement character, and so is what is left
unfinished at the end, be it half a unit, half a pair or both.
-/

namespace IniConfig.Utf16

/-- The order of the two bytes of a unit. -/
inductive ByteOrder where
  | littleEndian
  | bigEndian
deriving DecidableEq, Repr

def ByteOrder.unit : ByteOrder → Nat → Nat → Nat
  | littleEndian, first, second => second * 0x100 + first
  | bigEndian, first, second => first * 0x100 + second

def ByteOrder.bytes : ByteOrder → Nat → Bytes
  | littleEndian, u => [UInt8.ofNat (u % 0x100), UInt8.ofNat (u / 0x100)]
  | bigEndian, u => [UInt8.ofNat (u / 0x100), UInt8.ofNat (u % 0x100)]

/-- Whether a unit is the first of a pair. -/
def isHigh (u : Nat) : Bool := 0xD800 ≤ u && u < 0xDC00

/-- Whether a unit is the second of a pair. -/
def isLow (u : Nat) : Bool := 0xDC00 ≤ u && u < 0xE000

def units (c : Char) : List Nat :=
  let n := c.toNat
  if n < 0x10000 then [n]
  else [0xD800 + (n - 0x10000) / 0x400, 0xDC00 + (n - 0x10000) % 0x400]

def encode (o : ByteOrder) (t : Text) : Bytes := (t.flatMap units).flatMap o.bytes

/-- What is remembered between two bytes: the first unit of a pair, and the first byte of a
unit. -/
structure Pending where
  high? : Option Nat
  byte? : Option Nat
deriving DecidableEq, Repr

/-- What a unit begins: a whole character, or a pair. -/
def begin (u : Nat) : Text × Option Nat :=
  if isHigh u then ([], some u)
  else if isLow u then ([replacement], none)
  else ([Char.ofNat u], none)

/-- What one more unit makes of the first of a pair, or of none. -/
def readUnit : Option Nat → Nat → Text × Option Nat
  | none, u => begin u
  | some high, u =>
    if isLow u then ([Char.ofNat (0x10000 + (high - 0xD800) * 0x400 + (u - 0xDC00))], none)
    else (replacement :: (begin u).1, (begin u).2)

/-- What one more byte makes of what is remembered. -/
def read (o : ByteOrder) : Pending → Nat → Text × Pending
  | ⟨high?, none⟩, b => ([], ⟨high?, some b⟩)
  | ⟨high?, some first⟩, b =>
    ((readUnit high? (o.unit first b)).1, ⟨(readUnit high? (o.unit first b)).2, none⟩)

/-- The decoder of UTF-16 in a byte order. -/
def decoder (o : ByteOrder) : Decoder where
  State := Pending
  start := ⟨none, none⟩
  read s b := read o s b.toNat
  finish
    | ⟨none, none⟩ => []
    | _ => [replacement]

end IniConfig.Utf16
