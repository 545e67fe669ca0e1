import IniConfig.Proofs.EndedLines

/-!
# Texts put together from lines and from texts

A text with two line feeds or more is cut at its line feeds, and stays so whatever is put behind
it. So the lines of two texts with a line feed between them are those of the first and then those of
the second (`lines_append_lines`), and lines with a line feed between neighbours are the lines of
the text that they make (`lines_joined`).
-/

namespace IniConfig.Text

/-- The lines with a line feed between neighbours. -/
def joined (ls : List Text) : Text := ['\n'].intercalate ls

/-- The first lines of the text, and blank lines behind them. -/
def beginning (t : Text) (size blanks : Nat) : Text :=
  joined (t.lines.take size ++ List.replicate blanks [])

variable {t u : Text} {ls : List Text}

theorem lines_joined (hls : ∀ l ∈ ls, IsWhole l) (hd : (joined ls).delimiter = '\n') :
    (joined ls).lines = ls := by
  have hne : ls ≠ [] := by
    rintro rfl
    exact absurd hd (by decide)
  rw [lines, hd, joined, List.splitOn_intercalate '\n' (fun l hl => (hls l hl).1) hne]
  exact map_dropReturns fun l hl => (hls l hl).2

theorem length_le_count_joined (ls : List Text) : ls.length ≤ (joined ls).count '\n' + 1 := by
  induction ls with
  | nil => exact Nat.zero_le _
  | cons l ls ih =>
    cases ls with
    | nil => exact Nat.le_add_left 1 _
    | cons l' ls =>
      have hjoined : joined (l :: l' :: ls) = l ++ '\n' :: joined (l' :: ls) := by simp [joined]
      rw [hjoined, List.count_append, List.count_cons_self, List.length_cons]
      omega

theorem delimiter_joined (h : 3 ≤ ls.length) : (joined ls).delimiter = '\n' := by
  have hlen := length_le_count_joined ls
  rw [delimiter_eq_lf_iff]
  omega

theorem isWhole_of_mem_lines {l : Text} (ht : t.delimiter = '\n') (hl : l ∈ t.lines) : IsWhole l :=
  ⟨lf_not_mem_of_mem_lines ht hl, cr_not_mem_of_mem_lines hl⟩

/-- Three blank lines are enough for the text to be cut at its line feeds. -/
theorem delimiter_beginning {size blanks : Nat} (h : 3 ≤ blanks) :
    (t.beginning size blanks).delimiter = '\n' := by
  apply delimiter_joined
  rw [List.length_append, List.length_replicate]
  omega

theorem lines_beginning {size blanks : Nat} (ht : t.delimiter = '\n')
    (hd : (t.beginning size blanks).delimiter = '\n') :
    (t.beginning size blanks).lines = t.lines.take size ++ List.replicate blanks [] := by
  refine lines_joined ?_ hd
  intro l hl
  rcases List.mem_append.1 hl with hl | hl
  · exact isWhole_of_mem_lines ht (List.mem_of_mem_take hl)
  · obtain ⟨-, rfl⟩ := List.mem_replicate.1 hl
    exact ⟨List.not_mem_nil, List.not_mem_nil⟩

/-- Behind a text that is cut at its line feeds, the next text begins with a line of its own. -/
theorem lines_append (ht : 2 ≤ t.count '\n') (u : Text) :
    (t ++ '\n' :: u).lines = t.lines ++ (u.splitOn '\n').map dropReturns := by
  have hboth : 2 ≤ (t ++ '\n' :: u).count '\n' := by
    rw [List.count_append]
    omega
  rw [lines, lines, delimiter_eq_lf_iff.2 ht, delimiter_eq_lf_iff.2 hboth,
    List.splitOn_append_cons_self, List.map_append]

theorem lines_append_lines (ht : 2 ≤ t.count '\n') (hu : 2 ≤ u.count '\n') :
    (t ++ '\n' :: u).lines = t.lines ++ u.lines := by
  have hlines : u.lines = (u.splitOn '\n').map dropReturns := by
    rw [lines, delimiter_eq_lf_iff.2 hu]
  rw [lines_append ht, hlines]

end IniConfig.Text
