import IniConfig.Document
import IniConfig.Line

/-!
# Texts made of ended lines

A document is written as lines with a line feed after each. Such a text falls into the same lines
again, and an empty one behind the last line feed (`lines_ended`), if no line holds a line feed or
a carriage return of its own and there is more than one line; the text of one line has a single
line feed, which would not count as a line end.

For the way back, no line of a text that is cut at its line feeds holds one
(`lf_not_mem_of_mem_lines`).
-/

namespace IniConfig

namespace Text

/-- The lines with a line feed after each. -/
def ended (ls : List Text) : Text := ls.flatMap (· ++ ['\n'])

/-- A line is whole if it holds no character at which a text may be cut. -/
def IsWhole (l : Text) : Prop := '\n' ∉ l ∧ '\r' ∉ l

instance (l : Text) : Decidable (IsWhole l) := inferInstanceAs (Decidable (_ ∧ _))

theorem ended_cons (l : Text) (ls : List Text) : ended (l :: ls) = l ++ '\n' :: ended ls := by
  simp [ended]

theorem ended_append (ls ls' : List Text) : ended (ls ++ ls') = ended ls ++ ended ls' :=
  List.flatMap_append

theorem length_le_count_ended (ls : List Text) : ls.length ≤ (ended ls).count '\n' := by
  induction ls with
  | nil => exact Nat.le_refl _
  | cons l ls ih =>
    rw [ended_cons, List.count_append, List.count_cons_self, List.length_cons]
    omega

theorem splitOn_ended {ls : List Text} (h : ∀ l ∈ ls, '\n' ∉ l) :
    (ended ls).splitOn '\n' = ls ++ [[]] := by
  induction ls with
  | nil => rfl
  | cons l ls ih =>
    have hl : '\n' ∉ l := h l List.mem_cons_self
    have hls : ∀ l' ∈ ls, '\n' ∉ l' := fun l' hl' => h l' (List.mem_cons_of_mem _ hl')
    rw [ended_cons, List.splitOn_append_cons_self_of_not_mem hl, ih hls]
    rfl

theorem dropReturns_eq_self {l : Text} (h : '\r' ∉ l) : dropReturns l = l := by
  refine List.filter_eq_self.2 fun c hc => ?_
  have hne : c ≠ '\r' := fun e => h (e ▸ hc)
  simpa using hne

theorem map_dropReturns {ls : List Text} (h : ∀ l ∈ ls, '\r' ∉ l) : ls.map dropReturns = ls := by
  rw [List.map_congr_left fun l hl => dropReturns_eq_self (h l hl), List.map_id']

theorem lines_ended {ls : List Text} (hlen : ls.length ≠ 1) (h : ∀ l ∈ ls, IsWhole l) :
    (ended ls).lines = ls ++ [[]] := by
  cases ls with
  | nil => rfl
  | cons l rest =>
    have hcount := length_le_count_ended (l :: rest)
    have hlf : (ended (l :: rest)).delimiter = '\n' := by
      rw [delimiter_eq_lf_iff]
      simp only [List.length_cons] at hlen hcount
      omega
    rw [lines, hlf, splitOn_ended fun l' hl' => (h l' hl').1, List.map_append,
      map_dropReturns fun l' hl' => (h l' hl').2]
    rfl

theorem not_mem_of_mem_splitOn {t l : Text} {c : Char} (h : l ∈ t.splitOn c) : c ∉ l := by
  induction t generalizing l with
  | nil =>
    obtain rfl : l = [] := by simpa using h
    exact List.not_mem_nil
  | cons d t ih =>
    rw [List.splitOn_cons_eq_if_modifyHead] at h
    split at h
    · rcases List.mem_cons.1 h with rfl | h
      · exact List.not_mem_nil
      · exact ih h
    next hd =>
      obtain ⟨first, rest, hsplit⟩ := List.exists_cons_of_ne_nil (List.splitOn_ne_nil c t)
      rw [hsplit] at h ih
      rcases List.mem_cons.1 h with rfl | h
      · intro hmem
        rcases List.mem_cons.1 hmem with rfl | hmem
        · exact hd (beq_self_eq_true _)
        · exact ih List.mem_cons_self hmem
      · exact ih (List.mem_cons_of_mem _ h)

theorem lf_not_mem_of_mem_lines {t l : Text} (ht : t.delimiter = '\n') (h : l ∈ t.lines) :
    '\n' ∉ l := by
  obtain ⟨piece, hpiece, rfl⟩ := List.mem_map.1 h
  rw [ht] at hpiece
  exact fun hmem => not_mem_of_mem_splitOn hpiece (List.mem_filter.1 hmem).1

end Text

/-! ## The lines of a document -/

/-- The header that is written for a section. -/
def Section.header (name : Text) : Text := '[' :: name ++ [']']

/-- The lines that are written for a section: the header, the entries and an empty line. -/
def Section.writtenLines (name : Text) (s : Section) : List Text :=
  header name :: s.map Entry.render ++ [[]]

/-- The lines that are written for a document. -/
def Document.writtenLines (d : Document) : List Text :=
  d.flatMap fun (name, s) => s.writtenLines name

theorem Section.render_eq_ended (name : Text) (s : Section) :
    s.render name = Text.ended (s.writtenLines name) := by
  simp [render, writtenLines, header, Text.ended, List.flatMap_map]

namespace Document

theorem writtenLines_cons (p : Text × Section) (d : Document) :
    writtenLines (p :: d) = p.2.writtenLines p.1 ++ writtenLines d := rfl

theorem render_eq_ended (d : Document) : d.render = Text.ended d.writtenLines := by
  induction d with
  | nil => rfl
  | cons p d ih =>
    obtain ⟨name, s⟩ := p
    rw [writtenLines_cons, Text.ended_append, ← ih, ← Section.render_eq_ended]
    rfl

theorem two_le_length_writtenLines {d : Document} (h : d ≠ []) : 2 ≤ d.writtenLines.length := by
  cases d with
  | nil => exact absurd rfl h
  | cons p d =>
    rw [writtenLines_cons]
    simp only [Section.writtenLines, List.length_append, List.length_cons]
    omega

/-- A document that has a section is written with a line feed as the line end. -/
theorem delimiter_render {d : Document} (h : d ≠ []) : d.render.delimiter = '\n' := by
  rw [Text.delimiter_eq_lf_iff, render_eq_ended]
  exact Nat.le_trans (two_le_length_writtenLines h) (Text.length_le_count_ended _)

theorem lines_render {d : Document} (h : ∀ l ∈ d.writtenLines, Text.IsWhole l) :
    d.render.lines = d.writtenLines ++ [[]] := by
  rw [render_eq_ended]
  refine Text.lines_ended ?_ h
  by_cases hd : d = []
  · rw [hd]
    decide
  · have := two_le_length_writtenLines hd
    omega

end Document

end IniConfig
