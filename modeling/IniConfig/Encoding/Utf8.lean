import IniConfig.Encoding.Decoder

/-!
# UTF-8

A character is one byte or a lead byte with one to three continuation bytes. The decoder holds the
lead byte's bits while it waits for the continuation; a byte that cannot continue ends the sequence
with one replacement character and is read again as a first byte. So each replacement character
stands for the longest run of bytes that could have begun a character.
-/

namespace IniConfig.Utf8

/-- A byte that carries the last six bits of a number. -/
def continuation (n : Nat) : UInt8 := UInt8.ofNat (0x80 + n % 0x40)

/-- The bytes of a character. -/
def encodeChar (c : Char) : Bytes :=
  let n := c.toNat
  if n < 0x80 then [UInt8.ofNat n]
  else if n < 0x800 then [UInt8.ofNat (0xC0 + n / 0x40), continuation n]
  else if n < 0x10000 then
    [UInt8.ofNat (0xE0 + n / 0x1000), continuation (n / 0x40), continuation n]
  else
    [UInt8.ofNat (0xF0 + n / 0x40000), continuation (n / 0x1000), continuation (n / 0x40),
     continuation n]

/-- The bytes of a text. -/
def encode (t : Text) : Bytes := t.flatMap encodeChar

/-- A sequence that has begun: the bits so far, the bytes that are missing after the next, and the
bounds of the next byte. -/
structure Pending where
  bits : Nat
  missing : Nat
  least : Nat
  greatest : Nat
deriving DecidableEq, Repr

/-- What a byte begins: a whole character, or a sequence. The bounds of a second byte keep out
longer forms than needed, surrogates and what lies beyond Unicode. -/
def begin (b : Nat) : Text × Option Pending :=
  if b < 0x80 then ([Char.ofNat b], none)
  else if b < 0xC2 then ([replacement], none)
  else if b < 0xE0 then ([], some ⟨b - 0xC0, 0, 0x80, 0xBF⟩)
  else if b < 0xF0 then
    ([], some ⟨b - 0xE0, 1, if b = 0xE0 then 0xA0 else 0x80, if b = 0xED then 0x9F else 0xBF⟩)
  else if b < 0xF5 then
    ([], some ⟨b - 0xF0, 2, if b = 0xF0 then 0x90 else 0x80, if b = 0xF4 then 0x8F else 0xBF⟩)
  else ([replacement], none)

/-- What one more byte makes of a sequence that has begun, or of none. -/
def read : Option Pending → Nat → Text × Option Pending
  | none, b => begin b
  | some ⟨bits, missing, least, greatest⟩, b =>
    if b < least ∨ greatest < b then (replacement :: (begin b).1, (begin b).2)
    else
      let bits := bits * 0x40 + (b - 0x80)
      match missing with
      | 0 => ([Char.ofNat bits], none)
      | missing + 1 => ([], some ⟨bits, missing, 0x80, 0xBF⟩)

/-- The decoder of UTF-8. -/
def decoder : Decoder where
  State := Option Pending
  start := none
  read s b := read s b.toNat
  finish
    | none => []
    | some _ => [replacement]

end IniConfig.Utf8
