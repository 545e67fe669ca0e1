import IniConfig.Text.Basic

/-!
# Integers as text

An integer is written with the least number of decimal digits, after a minus sign if it is
negative. It is read with any number of leading zeros and an optional sign, and only if it lies in
the range of its type; an unsigned type refuses the minus sign, whatever follows. What is written
for an integer in range is read as that integer (`read?_write`), and what is written for one out of
range is refused (`read?_write_of_not_holds`).

A row of digits is halved until the pieces are short, and the numbers of the halves are put
together; so the time for a long row goes into few multiplications of great numbers. The number is
the one that is had digit by digit (`Digits.number_eq`).
-/

namespace IniConfig.Digits

/-- The number that decimal digits say, by so many halvings. -/
def numberByHalves : Nat → Text → Nat
  | 0, t => Nat.ofDigitChars 10 t 0
  | depth + 1, t =>
    let low := t.length / 2
    numberByHalves depth (t.take (t.length - low)) * Nat.pow 10 low +
      numberByHalves depth (t.drop (t.length - low))

/-- The number that decimal digits say. -/
def number (t : Text) : Nat := numberByHalves (t.length.log2 - 5) t

theorem ofDigitChars_append_zero (t u : Text) :
    Nat.ofDigitChars 10 (t ++ u) 0 =
      Nat.ofDigitChars 10 t 0 * Nat.pow 10 u.length + Nat.ofDigitChars 10 u 0 := by
  rw [Nat.ofDigitChars_append, Nat.ofDigitChars_eq_ofDigitChars_zero, Nat.mul_comm]
  rfl

theorem numberByHalves_eq (depth : Nat) (t : Text) :
    numberByHalves depth t = Nat.ofDigitChars 10 t 0 := by
  induction depth generalizing t with
  | zero => rfl
  | succ depth ih =>
    have hl : (t.drop (t.length - t.length / 2)).length = t.length / 2 := by
      rw [List.length_drop]; omega
    have h := ofDigitChars_append_zero (t.take (t.length - t.length / 2))
      (t.drop (t.length - t.length / 2))
    rw [List.take_append_drop, hl] at h
    simp only [numberByHalves, ih]
    exact h.symm

theorem number_eq (t : Text) : number t = Nat.ofDigitChars 10 t 0 := numberByHalves_eq _ t

end IniConfig.Digits

namespace IniConfig

/-- This power of two. -/
def twoTo (n : Nat) : Nat := Nat.pow 2 n

/-- An integer type: how many binary digits its values have, and whether one of them is a sign. -/
structure IntegerType where
  signed : Bool
  width : Nat
deriving DecidableEq, Repr

namespace IntegerType

/-- Whether a value of the type is this integer. -/
def holds (τ : IntegerType) (n : Int) : Bool :=
  if τ.signed then -(twoTo (τ.width - 1) : Int) ≤ n && n < (twoTo (τ.width - 1) : Int)
  else 0 ≤ n && n < (twoTo τ.width : Int)

/-- The integer that is written. -/
def write : Int → Text
  | .ofNat n => Text.ofNat n
  | .negSucc n => '-' :: Text.ofNat (n + 1)

/-- The number that a text of one digit or more says. -/
def readDigits? (t : Text) : Option Nat :=
  if t ≠ [] ∧ t.all Char.isDigit then some (Digits.number t) else none

/-- The integer that a text says, with a sign or without. -/
def readSigned? : Text → Option Int
  | '+' :: t => (readDigits? t).map fun n => (n : Int)
  | '-' :: t => (readDigits? t).map fun n => -(n : Int)
  | t => (readDigits? t).map fun n => (n : Int)

/-- The value of the type that a text says. -/
def read? (τ : IntegerType) (t : Text) : Option Int :=
  if !τ.signed && t.head? = some '-' then none
  else (readSigned? t).filter τ.holds

theorem readDigits?_ofNat (n : Nat) : readDigits? (Text.ofNat n) = some n := by
  have h : (Text.ofNat n).all Char.isDigit := by
    rw [List.all_eq_true]; exact fun c hc => Text.isDigit_of_mem_ofNat hc
  rw [readDigits?, if_pos ⟨Text.ofNat_ne_nil n, h⟩, Digits.number_eq, Text.ofNat,
    Nat.ofDigitChars_ten_toDigits]

theorem head?_ofNat_ne {n : Nat} {c : Char} (h : c.isDigit = false) :
    (Text.ofNat n).head? ≠ some c := by
  intro he
  have := Text.isDigit_of_mem_ofNat (List.mem_of_head? he)
  simp [h] at this

theorem readSigned?_write (n : Int) : readSigned? (write n) = some n := by
  match n with
  | .ofNat n =>
    have hp := head?_ofNat_ne (n := n) (c := '+') (by decide)
    have hm := head?_ofNat_ne (n := n) (c := '-') (by decide)
    unfold write readSigned?
    split
    next h => simp [h] at hp
    next h => simp [h] at hm
    next => simp [readDigits?_ofNat]
  | .negSucc n =>
    simp [write, readSigned?, readDigits?_ofNat, Int.negSucc_eq]

theorem read?_write {τ : IntegerType} {n : Int} (h : τ.holds n) :
    τ.read? (write n) = some n := by
  have hs : ¬((!τ.signed && (write n).head? = some '-') = true) := by
    intro hn
    obtain ⟨hu, hn⟩ : τ.signed = false ∧ (write n).head? = some '-' := by simpa using hn
    match n with
    | .ofNat n => exact head?_ofNat_ne (by decide) hn
    | .negSucc n =>
      rw [holds, if_neg (by simp [hu])] at h
      simp at h
  rw [read?, if_neg hs, readSigned?_write]
  simp [h]

theorem read?_write_of_not_holds {τ : IntegerType} {n : Int} (h : τ.holds n = false) :
    τ.read? (write n) = none := by
  unfold read?
  split
  · rfl
  · rw [readSigned?_write, Option.filter_some, h]
    rfl

theorem write_ne_nil (n : Int) : write n ≠ [] := by
  cases n with
  | ofNat n => exact Text.ofNat_ne_nil n
  | negSucc n => exact List.cons_ne_nil _ _

theorem isDigit_or_eq_of_mem_write {n : Int} {c : Char} (h : c ∈ write n) :
    c.isDigit ∨ c = '-' := by
  cases n with
  | ofNat n => exact Or.inl (Text.isDigit_of_mem_ofNat h)
  | negSucc n =>
    rcases List.mem_cons.1 h with rfl | h
    · exact Or.inr rfl
    · exact Or.inl (Text.isDigit_of_mem_ofNat h)

end IntegerType

end IniConfig
