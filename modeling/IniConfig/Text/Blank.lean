import IniConfig.Text.Basic

/-!
# Blank characters

The characters with the Unicode property `White_Space`, and the removal of those that stand at
the two ends of a text. Blank characters inside a text are kept (`trim` is an infix of its text).
-/

namespace IniConfig.Text

/-- The code points with the property `White_Space`, as ranges with both ends included. -/
def blankRanges : List (Nat × Nat) :=
  [(0x09, 0x0D), (0x20, 0x20), (0x85, 0x85), (0xA0, 0xA0), (0x1680, 0x1680), (0x2000, 0x200A),
   (0x2028, 0x2029), (0x202F, 0x202F), (0x205F, 0x205F), (0x3000, 0x3000)]

/-- Whether a character has the property `White_Space`. -/
def isBlank (c : Char) : Bool := blankRanges.any fun (lo, hi) => lo ≤ c.toNat && c.toNat ≤ hi

/-- The text without the blank characters at its start. -/
def trimStart (t : Text) : Text := t.dropWhile isBlank

/-- The text without the blank characters at its end. -/
def trimEnd (t : Text) : Text := (t.reverse.dropWhile isBlank).reverse

/-- The text without the blank characters at its two ends. -/
def trim (t : Text) : Text := trimEnd (trimStart t)

theorem isBlank_of_isDigit {c : Char} (h : c.isDigit) : isBlank c = false := by
  obtain ⟨hlow, hhigh⟩ := Char.isDigit_iff_toNat.1 h
  have hzero : '0'.toNat = 48 := rfl
  have hnine : '9'.toNat = 57 := rfl
  have hrange : ∀ r ∈ blankRanges, r.2 < 48 ∨ 57 < r.1 := by decide
  rw [isBlank, List.any_eq_false]
  intro r hr
  have hr := hrange r hr
  simp only [Bool.and_eq_true, decide_eq_true_eq]
  omega

theorem trimStart_isSuffix (t : Text) : trimStart t <:+ t := List.dropWhile_suffix _

theorem trimEnd_isPrefix (t : Text) : trimEnd t <+: t := by
  have h := List.dropWhile_suffix (l := t.reverse) isBlank
  rwa [← List.reverse_prefix, List.reverse_reverse] at h

theorem trim_isInfix (t : Text) : trim t <:+: t :=
  (trimEnd_isPrefix _).isInfix.trans (trimStart_isSuffix t).isInfix

theorem length_trim_le (t : Text) : (trim t).length ≤ t.length := (trim_isInfix t).length_le

theorem mem_of_mem_trim {t : Text} {c : Char} (h : c ∈ trim t) : c ∈ t :=
  (trim_isInfix t).subset h

/-! ## Texts without blank characters at their ends -/

theorem trimStart_cons_of_blank {c : Char} (h : isBlank c) (t : Text) :
    trimStart (c :: t) = trimStart t := List.dropWhile_cons_of_pos h

theorem trimEnd_append_of_blank {c : Char} (h : isBlank c) (t : Text) :
    trimEnd (t ++ [c]) = trimEnd t := by
  rw [trimEnd, List.reverse_append, List.reverse_singleton, List.singleton_append,
    List.dropWhile_cons_of_pos h]
  rfl

theorem trim_cons_of_blank {c : Char} (h : isBlank c) (t : Text) : trim (c :: t) = trim t := by
  rw [trim, trimStart_cons_of_blank h, trim]

theorem trim_append_of_blank {c : Char} (h : isBlank c) (t : Text) : trim (t ++ [c]) = trim t := by
  unfold trim trimStart
  rw [List.dropWhile_append]
  split
  next hnil =>
    rw [List.isEmpty_iff.1 hnil, List.dropWhile_cons_of_pos h]
    rfl
  · exact trimEnd_append_of_blank h _

theorem trimStart_of_not_blank {t : Text} (h : ∀ c ∈ t, isBlank c = false) : trimStart t = t := by
  cases t with
  | nil => rfl
  | cons c t => exact List.dropWhile_cons_of_neg (by simp [h c List.mem_cons_self])

theorem trim_of_not_blank {t : Text} (h : ∀ c ∈ t, isBlank c = false) : trim t = t := by
  have hreverse : trimStart t.reverse = t.reverse :=
    trimStart_of_not_blank fun c hc => h c (List.mem_reverse.1 hc)
  rw [trim, trimStart_of_not_blank h]
  exact (congrArg List.reverse hreverse).trans t.reverse_reverse

/-- What trimming leaves begins with no blank character. -/
theorem trimStart_trim (t : Text) : trimStart (trim t) = trim t := by
  cases ht : trim t with
  | nil => rfl
  | cons c r =>
    obtain ⟨rest, hrest⟩ := trimEnd_isPrefix (trimStart t)
    rw [show trimEnd (trimStart t) = c :: r from ht] at hrest
    have hc := List.head?_dropWhile_not isBlank t
    rw [show t.dropWhile isBlank = c :: r ++ rest from hrest.symm] at hc
    exact List.dropWhile_cons_of_neg (by simpa using hc)

theorem trimEnd_trimEnd (t : Text) : trimEnd (trimEnd t) = trimEnd t := by
  unfold trimEnd
  rw [List.reverse_reverse]
  congr 1
  cases h : t.reverse.dropWhile isBlank with
  | nil => rfl
  | cons c r =>
    have hc := List.head?_dropWhile_not isBlank t.reverse
    rw [h] at hc
    exact List.dropWhile_cons_of_neg (by simpa using hc)

theorem trim_trim (t : Text) : trim (trim t) = trim t := by
  rw [trim, trimStart_trim, trim, trimEnd_trimEnd]

end IniConfig.Text
