import IniConfig.Encoding.Decoder
import IniConfig.Encoding.Gbk.FourBytes
import IniConfig.Encoding.Gbk.Table

/-!
# The charset GBK

A byte below 80 is the character of that number, 80 is the euro sign, and a byte from 81 to FE
leads a character of two bytes, or of four if a digit follows it. What is unassigned is one
replacement character, and an ASCII byte in it is read again as a character of its own; so the
bytes after a lead byte with a digit are held back until the fourth. Characters of four bytes are
read and never written.
-/

namespace IniConfig.Gbk

/-- The bytes of a character, if it has any. -/
def encodeChar? (c : Char) : Option Bytes :=
  if c.toNat < 0x80 then some [UInt8.ofNat c.toNat]
  else if c = '€' then some [0x80]
  else (code? c).map fun (lead, trail) => [UInt8.ofNat lead, UInt8.ofNat trail]

/-- The bytes of a character that has begun. -/
inductive Pending where
  | none
  | lead (first : Nat)
  | leadDigit (first second : Nat)
  | leadDigitLead (first second third : Nat)
deriving DecidableEq, Repr

/-- Whether a byte can lead a character. -/
def isLead (b : Nat) : Bool := 0x81 ≤ b && b ≤ 0xFE

/-- Whether a byte is a decimal digit. -/
def isDigit (b : Nat) : Bool := 0x30 ≤ b && b ≤ 0x39

/-- What a byte begins. -/
def begin (b : Nat) : Text × Pending :=
  if b < 0x80 then ([Char.ofNat b], .none)
  else if b = 0x80 then (['€'], .none)
  else if isLead b then ([], .lead b)
  else ([replacement], .none)

/-- What one more byte makes of a lead byte. -/
def readTrail (first b : Nat) : Text × Pending :=
  if isDigit b then ([], .leadDigit first b)
  else
    match pair? first b with
    | some c => ([c], .none)
    | .none => if b < 0x80 then ([replacement, Char.ofNat b], .none) else ([replacement], .none)

/-- What one more byte makes of the bytes that are held back. -/
def read : Pending → Nat → Text × Pending
  | .none, b => begin b
  | .lead first, b => readTrail first b
  | .leadDigit first second, b =>
    if isLead b then ([], .leadDigitLead first second b)
    else (replacement :: Char.ofNat second :: (begin b).1, (begin b).2)
  | .leadDigitLead first second third, b =>
    if isDigit b then ([(quad? first second third b).getD replacement], .none)
    else (replacement :: Char.ofNat second :: (readTrail third b).1, (readTrail third b).2)

/-- The decoder of GBK. -/
def decoder : Decoder where
  State := Pending
  start := .none
  read s b := read s b.toNat
  finish
    | .none => []
    | _ => [replacement]

end IniConfig.Gbk
