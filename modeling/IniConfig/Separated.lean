import IniConfig.Scalar

/-!
# Lists in one value

A list is kept in one value, with a separator after each element but the last. The separator is
written after every element, and then one is taken from the end; so an element that ends in the
separator or with a part of it may not come back.

A text is cut at the occurrences of a separator that a reading from left to right finds, none of
which overlaps the one before. Joining the pieces with the separator gives the text back
(`Text.intercalate_pieces`).
-/

namespace IniConfig.Text

/-- The pieces of the text that is left after the first so many characters, which belong to an
occurrence already found. -/
def piecesFrom (separator : Text) : Nat → Text → List Text
  | _, [] => [[]]
  | skip + 1, _ :: t => piecesFrom separator skip t
  | 0, c :: t =>
    if separator.isPrefixOf (c :: t) then [] :: piecesFrom separator (separator.length - 1) t
    else (piecesFrom separator 0 t).modifyHead (c :: ·)

/-- The pieces of the text between the occurrences of a separator, which must not be empty. -/
def pieces (separator t : Text) : List Text := piecesFrom separator 0 t

/-- The text with the occurrences of one text replaced by another. -/
def replaceAll (old new t : Text) : Text := new.intercalate (pieces old t)

theorem piecesFrom_ne_nil (separator : Text) (skip : Nat) (t : Text) :
    piecesFrom separator skip t ≠ [] := by
  fun_induction piecesFrom separator skip t <;> simp_all

theorem intercalate_modifyHead_cons (separator : Text) (c : Char) {ts : List Text} (h : ts ≠ []) :
    separator.intercalate (ts.modifyHead (c :: ·)) = c :: separator.intercalate ts := by
  match ts, h with
  | [t], _ => simp
  | t :: u :: us, _ => simp [List.intercalate_cons_cons]

theorem intercalate_nil_cons (separator : Text) {ts : List Text} (h : ts ≠ []) :
    separator.intercalate ([] :: ts) = separator ++ separator.intercalate ts := by
  match ts, h with
  | t :: us, _ => simp [List.intercalate_cons_cons]

theorem intercalate_piecesFrom {separator : Text} (hs : separator ≠ []) (skip : Nat) (t : Text) :
    separator.intercalate (piecesFrom separator skip t) = t.drop skip := by
  fun_induction piecesFrom separator skip t with
  | case1 => simp
  | case2 skip c t ih => simpa using ih
  | case3 c t h ih =>
    rw [intercalate_nil_cons separator (piecesFrom_ne_nil _ _ _), ih]
    obtain ⟨rest, hr⟩ := List.isPrefixOf_iff_prefix.1 h
    obtain ⟨d, ds, rfl⟩ := List.exists_cons_of_ne_nil hs
    obtain ⟨rfl, rfl⟩ : d = c ∧ ds ++ rest = t := by simpa using hr
    simp
  | case4 c t h ih =>
    rw [intercalate_modifyHead_cons separator c (piecesFrom_ne_nil _ _ _), ih]
    simp

theorem intercalate_pieces {separator : Text} (hs : separator ≠ []) (t : Text) :
    separator.intercalate (pieces separator t) = t :=
  intercalate_piecesFrom hs 0 t

end IniConfig.Text

namespace IniConfig.Separated

/-- The text without a separator at its end. -/
def dropTrailing (separator t : Text) : Text :=
  if separator ≠ [] ∧ separator.isSuffixOf t then t.take (t.length - separator.length) else t

def join (separator : Text) (elements : List Text) : Text :=
  dropTrailing separator (elements.flatMap (· ++ separator))

/-- The elements of a text; the empty text has none, and without a separator the text is one. -/
def split (separator t : Text) : List Text :=
  if t = [] then [] else if separator = [] then [t] else Text.pieces separator t

def write (separator : Text) (values : List Scalar) : Text := join separator (values.map (·.write))

def read (k : Kind) (separator t : Text) : List Scalar := (split separator t).map k.read

/-- The first so many values; where there are fewer, the default of the kind stands in. -/
def firstOf (k : Kind) (size : Nat) (values : List Scalar) : List Scalar :=
  (values ++ List.replicate size k.default).take size

theorem firstOf_nil (k : Kind) (size : Nat) :
    firstOf k size [] = List.replicate size k.default := by
  rw [firstOf, List.nil_append, List.take_replicate, Nat.min_self]

/-- One empty element is written as nothing, and so read as no element. -/
example : split ",".toList (join ",".toList [[]]) = [] := by decide

end IniConfig.Separated
