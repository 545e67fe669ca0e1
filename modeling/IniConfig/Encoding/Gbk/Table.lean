import IniConfig.Encoding.Gbk.Ideographs
import IniConfig.Encoding.Gbk.Symbols

/-!
# The characters of two bytes

A lead byte from 81 to FE and a trail byte from 40 to FE, 7F left out, are the place of a character
in a table of 126 rows with 190 characters each. Trail bytes below A1 and from A1 on divide a row
into a low part of 96 and a high part of 94 characters; low and high parts belong to different
zones of the table.
-/

namespace IniConfig.Gbk

/-- So many characters of an array from a place on. -/
def slice (cs : Array Char) (start count : Nat) : Text := (cs.extract start (start + count)).toList

/-- So many characters of private use from a code point on. The place of E5E5 holds the space of an
ideograph's width a second time. -/
def privateUse (first count : Nat) : Text :=
  (List.range' first count).map fun n => if n = 0xE5E5 then '\u3000' else Char.ofNat n

/-- The symbols with a high trail byte. -/
def symbols : Array Char := (symbolRows.flatMap String.toList).toArray

/-- The symbols with a low trail byte. -/
def lowSymbols : Array Char := (lowSymbolRows.flatMap String.toList).toArray

/-- The number of further ideographs with the lead bytes from 81 to A0. -/
def earlyCount : Nat := 6080

/-- The low part of the row of a lead byte. -/
def lowRow (lead : Nat) : Text :=
  if lead ≤ 0xA0 then slice furtherIdeographs ((lead - 0x81) * 190) 96
  else if lead ≤ 0xA7 then privateUse (0xE4C6 + (lead - 0xA1) * 96) 96
  else if lead ≤ 0xA9 then slice lowSymbols ((lead - 0xA8) * 96) 96
  else slice furtherIdeographs (earlyCount + (lead - 0xAA) * 96) 96

/-- The high part of the row of a lead byte. -/
def highRow (lead : Nat) : Text :=
  if lead ≤ 0xA0 then slice furtherIdeographs ((lead - 0x81) * 190 + 96) 94
  else if lead ≤ 0xA9 then slice symbols ((lead - 0xA1) * 94) 94
  else if lead ≤ 0xAF then privateUse (0xE000 + (lead - 0xAA) * 94) 94
  else if lead ≤ 0xF7 then slice commonIdeographs ((lead - 0xB0) * 94) 94
  else privateUse (0xE234 + (lead - 0xF8) * 94) 94

/-- The characters of two bytes, row by row. -/
def table : Array Char :=
  ((List.range' 0x81 126).flatMap fun lead => lowRow lead ++ highRow lead).toArray

/-- The place in the table of a lead byte with a trail byte. -/
def place? (lead trail : Nat) : Option Nat :=
  if 0x40 ≤ trail ∧ trail ≤ 0x7E then some ((lead - 0x81) * 190 + (trail - 0x40))
  else if 0x80 ≤ trail ∧ trail ≤ 0xFE then some ((lead - 0x81) * 190 + (trail - 0x41))
  else none

/-- The bytes of a place in the table. -/
def bytesAt (place : Nat) : Nat × Nat :=
  let column := place % 190
  (0x81 + place / 190, column + (if column ≤ 0x3E then 0x40 else 0x41))

/-- The character of two bytes. -/
def pair? (lead trail : Nat) : Option Char := (place? lead trail).bind (table[·]?)

/-- Characters of private use that once held the place of a character, with that character. -/
def successors : List (Nat × Nat) :=
  [(0xE78D, 0xFE10), (0xE78E, 0xFE12), (0xE78F, 0xFE11), (0xE790, 0xFE13), (0xE791, 0xFE14),
   (0xE792, 0xFE15), (0xE793, 0xFE16), (0xE794, 0xFE17), (0xE795, 0xFE18), (0xE796, 0xFE19),
   (0xE81E, 0x9FB4), (0xE826, 0x9FB5), (0xE82B, 0x9FB6), (0xE82C, 0x9FB7), (0xE832, 0x9FB8),
   (0xE843, 0x9FB9), (0xE854, 0x9FBA), (0xE864, 0x9FBB)]

/-- The two bytes of a character, at its first place in the table or its successor's. -/
def code? (c : Char) : Option (Nat × Nat) :=
  let c := ((successors.lookup c.toNat).map Char.ofNat).getD c
  (table.idxOf? c).map bytesAt

end IniConfig.Gbk
