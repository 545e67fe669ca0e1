import IniConfig.Text.Basic

/-!
# Decoders

A decoder reads bytes one at a time. With each byte it may write characters, and what it has to
remember is its state; when the bytes end, it writes what an unfinished sequence is worth. Bytes
that stand for no character are written as the replacement character.
-/

namespace IniConfig

/-- Bytes, as of a file. -/
abbrev Bytes := List UInt8

/-- The character that stands for bytes that cannot be read. -/
def replacement : Char := '\uFFFD'

/-- A machine that reads bytes and writes characters. -/
structure Decoder where
  /-- What is remembered between two bytes. -/
  State : Type
  /-- The state before the first byte. -/
  start : State
  /-- The characters that are written for one more byte, and the state after it. -/
  read : State → UInt8 → Text × State
  /-- The characters that are written when the bytes end. -/
  finish : State → Text

namespace Decoder

/-- The characters for the bytes, from a state on. -/
def runFrom (d : Decoder) : d.State → Bytes → Text
  | s, [] => d.finish s
  | s, b :: bs => (d.read s b).1 ++ d.runFrom (d.read s b).2 bs

/-- The characters for the bytes. -/
def run (d : Decoder) (bs : Bytes) : Text := d.runFrom d.start bs

end Decoder

end IniConfig
