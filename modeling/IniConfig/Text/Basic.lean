/-!
# Text

A text is the list of its characters: a count of characters is a length, a cut is a `take`, and
laws about text are laws about lists. Texts become strings only where they leave the library.
-/

namespace IniConfig

/-- A text, as the list of its characters. -/
abbrev Text := List Char

namespace Text

/-- The decimal digits of a number. -/
def ofNat (n : Nat) : Text := Nat.toDigits 10 n

/-- The word for a truth value. -/
def ofBool : Bool → Text
  | true => ['t', 'r', 'u', 'e']
  | false => ['f', 'a', 'l', 's', 'e']

/-- Whether the text is the word for true, with nothing around it. -/
def saysTrue (t : Text) : Bool := t = ofBool true

/-- The texts with a comma between neighbours, and brackets around them all. -/
def bracketed (ts : List Text) : Text := '[' :: [',', ' '].intercalate ts ++ [']']

theorem ofNat_ne_nil (n : Nat) : ofNat n ≠ [] := Nat.toDigits_ne_nil

theorem isDigit_of_mem_ofNat {n : Nat} {c : Char} (h : c ∈ ofNat n) : c.isDigit :=
  Nat.isDigit_of_mem_toDigits (b := 10) (n := n) (by decide) (by decide) h

end Text

end IniConfig
