import IniConfig.Proofs.LineEnds
import IniConfig.Proofs.ReadDocuments

/-!
# Lines that give their text back

Nothing but carriage returns is lost when a text is cut into lines. The pieces between the
delimiters always join to the text. Cut at its line feeds, the text comes back without its carriage
returns, and the lines hold no line end at all. Cut at its carriage returns, it has none left to
drop and comes back whole (`joinedBy_lines`); a line feed then stays where it was, inside a line.
There is at most one, since such a text has no more (`confines_lines`). A line with a line feed is
no entry and no header, so what is stored of it, if anything, is the line itself
(`sublist_withFeed_ofText`).
-/

namespace IniConfig

namespace Text

variable {t l : Text} {ls ls' : List Text}

/-- Those of the texts that hold a line feed. -/
def withFeed (ls : List Text) : List Text := ls.filter fun l => '\n' ∈ l

/-- At most one of the lines holds a line feed, and that only if the text has exactly one. -/
structure Confines (t : Text) (ls : List Text) : Prop where
  length_le : (withFeed ls).length ≤ 1
  count_eq : withFeed ls ≠ [] → t.count '\n' = 1

/-- The lines are as many as the delimiters and one more, and they tell what the text was, up to
carriage returns beside line feeds. -/
structure GivenBackBy (t : Text) (ls : List Text) : Prop where
  length : ls.length = t.count t.delimiter + 1
  no_return : ∀ l ∈ ls, '\r' ∉ l
  cut_at_feeds : t.delimiter = '\n' → (∀ l ∈ ls, '\n' ∉ l) ∧ joined ls = dropReturns t
  cut_at_returns : t.delimiter = '\r' →
    joinedBy .carriageReturn ls = t ∧ t.Confines ls ∧
      (t.count '\n' = 1 → ∃ l, withFeed ls = [l] ∧ l.count '\n' = 1)

/-! ## Pieces between delimiters -/

theorem length_splitOn (t : Text) (c : Char) : (t.splitOn c).length = t.count c + 1 := by
  induction t with
  | nil => rfl
  | cons d t ih =>
    rw [List.splitOn_cons_eq_if_modifyHead, List.count_cons]
    split
    · rw [List.length_cons, ih]
    · rw [List.length_modifyHead, ih, Nat.add_zero]

theorem length_lines (t : Text) : t.lines.length = t.count t.delimiter + 1 := by
  rw [lines, List.length_map, length_splitOn]

/-- A text that is cut at its line feeds comes back without its carriage returns. -/
theorem joined_lines (ht : t.delimiter = '\n') : joined t.lines = dropReturns t := by
  rw [lines_eq_splitOn_dropReturns (delimiter_eq_lf_iff.1 ht), joined, List.intercalate_splitOn]

/-- The pieces of a text that is cut at its carriage returns have none that could be dropped. -/
theorem lines_eq_splitOn (ht : t.delimiter = '\r') : t.lines = t.splitOn '\r' := by
  rw [lines, ht]
  exact map_dropReturns fun l hl => not_mem_of_mem_splitOn hl

theorem joinedBy_lines (ht : t.delimiter = '\r') : joinedBy .carriageReturn t.lines = t := by
  rw [lines_eq_splitOn ht, joinedBy, LineEnd.text, List.intercalate_splitOn]

/-! ## The line feed that is left -/

theorem count_joinedBy_carriageReturn (ls : List Text) :
    (joinedBy .carriageReturn ls).count '\n' = ls.flatten.count '\n' := by
  induction ls with
  | nil => rfl
  | cons l ls ih =>
    cases ls with
    | nil => simp [joinedBy]
    | cons l' ls =>
      rw [joinedBy_cons_cons, List.count_append, List.count_append, ih, List.flatten_cons,
        List.count_append]
      simp [LineEnd.text]

theorem withFeed_cons_of_mem (h : '\n' ∈ l) (ls : List Text) :
    withFeed (l :: ls) = l :: withFeed ls :=
  List.filter_cons_of_pos (by simpa using h)

theorem withFeed_cons_of_not_mem (h : '\n' ∉ l) (ls : List Text) :
    withFeed (l :: ls) = withFeed ls :=
  List.filter_cons_of_neg (by simpa using h)

theorem withFeed_eq_nil_iff : withFeed ls = [] ↔ ∀ l ∈ ls, '\n' ∉ l := by
  simp [withFeed, List.filter_eq_nil_iff]

/-- The line feeds of the lines are those of the lines that hold any. -/
theorem count_flatten_withFeed (ls : List Text) :
    (withFeed ls).flatten.count '\n' = ls.flatten.count '\n' := by
  induction ls with
  | nil => rfl
  | cons l ls ih =>
    rw [List.flatten_cons, List.count_append]
    by_cases hl : '\n' ∈ l
    · rw [withFeed_cons_of_mem hl, List.flatten_cons, List.count_append, ih]
    · rw [withFeed_cons_of_not_mem hl, List.count_eq_zero_of_not_mem hl, Nat.zero_add, ih]

theorem length_withFeed_le (ls : List Text) :
    (withFeed ls).length ≤ (withFeed ls).flatten.count '\n' := by
  induction ls with
  | nil => exact Nat.le_refl 0
  | cons l ls ih =>
    by_cases hl : '\n' ∈ l
    · have hpos : 0 < l.count '\n' := List.count_pos_iff.2 hl
      rw [withFeed_cons_of_mem hl, List.length_cons, List.flatten_cons, List.count_append]
      omega
    · rwa [withFeed_cons_of_not_mem hl]

theorem count_flatten_lines (ht : t.delimiter = '\r') :
    (withFeed t.lines).flatten.count '\n' = t.count '\n' := by
  rw [count_flatten_withFeed, ← count_joinedBy_carriageReturn, joinedBy_lines ht]

/-- A single line feed that is no delimiter stands in a single line. -/
theorem exists_withFeed_lines (ht : t.delimiter = '\r') (hcount : t.count '\n' = 1) :
    ∃ l, withFeed t.lines = [l] ∧ l.count '\n' = 1 := by
  have hall : (withFeed t.lines).flatten.count '\n' = 1 := (count_flatten_lines ht).trans hcount
  have hlength : (withFeed t.lines).length = 1 := by
    -- each of these lines holds one line feed at least, and there is one in all
    have hle := length_withFeed_le t.lines
    have hne : withFeed t.lines ≠ [] := by
      intro hnil
      rw [hnil] at hall
      exact absurd hall (by decide)
    have hpos := List.length_pos_iff.2 hne
    omega
  obtain ⟨l, hl⟩ := List.length_eq_one_iff.1 hlength
  refine ⟨l, hl, ?_⟩
  rw [hl, List.flatten_singleton] at hall
  exact hall

theorem confines_lines (t : Text) : t.Confines t.lines := by
  rcases Nat.lt_or_ge (t.count '\n') 2 with hfew | hmany
  · have hcut : t.delimiter = '\r' := delimiter_eq_cr_iff.2 (by omega)
    have hlength := length_withFeed_le t.lines
    rw [count_flatten_lines hcut] at hlength
    refine ⟨by omega, fun hne => ?_⟩
    have hpos := List.length_pos_iff.2 hne
    omega
  · have hnone : withFeed t.lines = [] :=
      withFeed_eq_nil_iff.2 fun _ => lf_not_mem_of_mem_lines (delimiter_eq_lf_iff.2 hmany)
    refine ⟨?_, fun hne => absurd hnone hne⟩
    rw [hnone]
    exact Nat.zero_le 1

theorem Confines.of_sublist (h : t.Confines ls) (hs : (withFeed ls').Sublist (withFeed ls)) :
    t.Confines ls' := by
  refine ⟨hs.length_le.trans h.length_le, fun hne => h.count_eq ?_⟩
  intro hnil
  rw [hnil] at hs
  exact hne (List.sublist_nil.1 hs)

theorem givenBackBy_lines (t : Text) : t.GivenBackBy t.lines := by
  constructor
  case length => exact length_lines t
  case no_return => exact fun l hl => cr_not_mem_of_mem_lines hl
  case cut_at_feeds =>
    intro ht
    exact ⟨fun l hl => lf_not_mem_of_mem_lines ht hl, joined_lines ht⟩
  case cut_at_returns =>
    intro ht
    exact ⟨joinedBy_lines ht, confines_lines t, exists_withFeed_lines ht⟩

end Text

/-! ## What is stored of a line with a line feed -/

variable {o : Options} {l : Text} {e : Entry}

/-- An entry that is written with a line feed was a line without structure, and is written as it
was. -/
theorem render_eq_of_entryOf? (h : Block.entryOf? o (Line.classify l) = some e) (hr : '\r' ∉ l)
    (hfeed : '\n' ∈ e.render) : e.render = l := by
  rcases Block.entryOf?_eq_some_iff.1 h with h | ⟨-, hkey, h⟩
  · have htidy := isTidy_of_classify h hr
    unfold Entry.render at hfeed
    split at hfeed
    · exact absurd hfeed htidy.value_whole.1
    · simp [htidy.key_whole.1, htidy.value_whole.1] at hfeed
  · rw [Entry.render_of_key_eq hkey]
    generalize e.value = value at h
    cases Line.classify_eq_iff.1 h with
    | bare => rfl

theorem sublist_withFeed_filterMap {ls : List Text} (o : Options) (hls : ∀ l ∈ ls, '\r' ∉ l) :
    (Text.withFeed ((ls.filterMap fun l => Block.entryOf? o (Line.classify l)).map
      Entry.render)).Sublist (Text.withFeed ls) := by
  induction ls with
  | nil => exact List.Sublist.refl _
  | cons l ls ih =>
    obtain ⟨hr, hls⟩ := List.forall_mem_cons.1 hls
    have hrest : (Text.withFeed ls).Sublist (Text.withFeed (l :: ls)) :=
      (List.sublist_cons_self l ls).filter _
    cases he : Block.entryOf? o (Line.classify l) with
    | none =>
      simp only [List.filterMap_cons, he]
      exact (ih hls).trans hrest
    | some e =>
      simp only [List.filterMap_cons, he, List.map_cons]
      by_cases hfeed : '\n' ∈ e.render
      · have hrender := render_eq_of_entryOf? he hr hfeed
        rw [hrender] at hfeed ⊢
        rw [Text.withFeed_cons_of_mem hfeed, Text.withFeed_cons_of_mem hfeed]
        exact (ih hls).cons_cons l
      · rw [Text.withFeed_cons_of_not_mem hfeed]
        exact (ih hls).trans hrest

theorem Parsed.sublist_withFeed_ofText (o : Options) (t : Text) :
    (Text.withFeed ((ofText o t).document.entries.map Entry.render)).Sublist
      (Text.withFeed (o.prepared t).lines) := by
  have hstored := ((sublist_ofText o t).map Entry.render).filter fun l => '\n' ∈ l
  exact hstored.trans (sublist_withFeed_filterMap o fun l hl => Text.cr_not_mem_of_mem_lines hl)

/-- **The lines give their text back, and in every reading at most one line holds a line feed, only
if the text has exactly one; so at most one entry is stored with a line feed.** -/
theorem givenBackBy_lines_and_confines_parse :
    (∀ t : Text, t.GivenBackBy t.lines) ∧
      ∀ (e : Editor) (t : Text),
        (e.options.prepared t).Confines (e.options.prepared t).lines ∧
          (e.options.prepared t).Confines ((e.parse t).2.document.entries.map Entry.render) := by
  refine ⟨Text.givenBackBy_lines, fun e t => ?_⟩
  have hlines := Text.confines_lines (e.options.prepared t)
  refine ⟨hlines, hlines.of_sublist ?_⟩
  rw [Editor.document_parse]
  exact Parsed.sublist_withFeed_ofText e.options t

/-- The line feed that is no line end is stored where lines without structure are kept. -/
example : ((Editor.new { keepBare := true }).parse "[a]\rx\r\ny".toList).2.document =
    [("a".toList, [.ofBare "x".toList, .ofBare "\ny".toList])] := by
  decide

end IniConfig
