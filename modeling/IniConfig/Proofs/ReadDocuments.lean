import IniConfig.Proofs.Blocks
import IniConfig.Proofs.EntryLines

/-!
# What every document that was read is like

A header says a name that is one line without `=`, and an entry comes tidy from its line. So every
document that was read of a text is tidy (`isTidy_ofText`), whether or not all of the text could be
read. A text that is cut at its line feeds leaves no line feed in a value either
(`isWhole_of_mem_ofText`); one that is cut at its carriage returns may leave one in a line that was
kept without structure.
-/

namespace IniConfig

open Text (IsWhole)

/-- A name that a header can say, and whose section is kept. -/
structure Options.IsHeading (o : Options) (name : Text) : Prop where
  ne_nil : name ≠ []
  no_equals : '=' ∉ name
  whole : IsWhole name
  length_le : name.length ≤ 4094
  kept : o.isExcluded name = false

instance (o : Options) (name : Text) : Decidable (o.IsHeading name) :=
  decidable_of_iff
    (name ≠ [] ∧ '=' ∉ name ∧ IsWhole name ∧ name.length ≤ 4094 ∧ o.isExcluded name = false)
    ⟨fun ⟨h₁, h₂, h₃, h₄, h₅⟩ => ⟨h₁, h₂, h₃, h₄, h₅⟩,
      fun ⟨h₁, h₂, h₃, h₄, h₅⟩ => ⟨h₁, h₂, h₃, h₄, h₅⟩⟩

/-- The document has only named sections with entries, and its entries are tidy. -/
structure Document.IsTidy (o : Options) (d : Document) : Prop where
  heading : ∀ x ∈ d, o.IsHeading x.1
  filled : ∀ x ∈ d, x.2 ≠ []
  tidy : ∀ x ∈ d, ∀ e ∈ x.2, e.key ≠ Entry.bareKey → e.IsTidy

variable {o : Options} {l t : Text} {name : Text} {x : Text × Section} {e : Entry}

/-! ## Headers -/

theorem classify_header_iff :
    Line.classify l = .header name ↔
      l = Section.header name ∧ '=' ∉ name ∧ '\n' ∉ name ∧ name.length ≤ 4094 := by
  rw [Line.classify_eq_iff]
  constructor
  · intro h
    cases h with
    | header hr hn he hl =>
      have hlen := hr.length_le
      rw [hl] at hn he hlen
      refine ⟨hl, fun hc => he (by simp [hc]), fun hc => hn (by simp [hc]), ?_⟩
      unfold Line.maxLength at hlen
      simp only [List.length_append, List.length_cons, List.length_nil] at hlen
      omega
  · rintro ⟨rfl, he, hn, hlen⟩
    refine .header ⟨List.cons_ne_nil _ _, ?_, ?_⟩ ?_ ?_ rfl
    · unfold Line.maxLength Section.header
      simp only [List.length_append, List.length_cons, List.length_nil]
      omega
    · simp [Line.IsComment, Section.header]
    · simp [Section.header, hn]
    · simp [Section.header, he]

theorem Options.IsHeading.classify_header (h : o.IsHeading name) :
    Line.classify (Section.header name) = .header name :=
  classify_header_iff.2 ⟨rfl, h.no_equals, h.whole.1, h.length_le⟩

/-! ## Documents -/

namespace Parsed

/-- A section that was read has its header and its entries among the lines of the text. -/
theorem mem_ofText (hx : x ∈ (ofText o t).document) :
    o.isExcluded x.1 = false ∧ x.1 ≠ [] ∧ x.2 ≠ [] ∧
      (∃ l ∈ (o.prepared t).lines, Line.classify l = .header x.1) ∧
      ∀ e ∈ x.2, ∃ l ∈ (o.prepared t).lines,
        Block.entryOf? o (Line.classify l) = some e := by
  rw [ofText_eq_ofBlocks] at hx
  obtain ⟨hkept, hne, hs, hheader, hentries⟩ := Block.mem_read_cut hx
  refine ⟨hkept, hne, hs, List.mem_map.1 hheader, fun e he => ?_⟩
  obtain ⟨line, hline, he⟩ := hentries e he
  obtain ⟨l, hl, rfl⟩ := List.mem_map.1 hline
  exact ⟨l, hl, he⟩

/-- The entries that were read stand in the text, in this order. -/
theorem sublist_ofText (o : Options) (t : Text) :
    (ofText o t).document.entries.Sublist
      ((o.prepared t).lines.filterMap fun l => Block.entryOf? o (Line.classify l)) := by
  rw [ofText_eq_ofBlocks]
  have h := Block.sublist_read o [] (Block.cut ((o.prepared t).lines.map Line.classify))
  rwa [Block.flatMap_entries_cut, List.filterMap_map] at h

theorem isTidy_ofText (o : Options) (t : Text) : (ofText o t).document.IsTidy o := by
  constructor
  · intro x hx
    obtain ⟨hkept, hne, -, ⟨l, hl, hheader⟩, -⟩ := mem_ofText hx
    obtain ⟨rfl, he, hn, hlen⟩ := classify_header_iff.1 hheader
    have hr := Text.cr_not_mem_of_mem_lines hl
    exact ⟨hne, he, ⟨hn, fun hc => hr (by simp [Section.header, hc])⟩, hlen, hkept⟩
  · intro x hx
    exact (mem_ofText hx).2.2.1
  · intro x hx e he hk
    obtain ⟨-, -, -, -, hentries⟩ := mem_ofText hx
    obtain ⟨l, hl, he⟩ := hentries e he
    exact isTidy_of_entryOf? he (Text.cr_not_mem_of_mem_lines hl) hk

theorem cr_not_mem_of_mem_ofText (hx : x ∈ (ofText o t).document) (he : e ∈ x.2) :
    '\r' ∉ e.value := by
  obtain ⟨l, hl, he⟩ := (mem_ofText hx).2.2.2.2 e he
  exact fun hc => Text.cr_not_mem_of_mem_lines hl (mem_of_entryOf? he hc)

theorem isWhole_of_mem_ofText (ht : (o.prepared t).delimiter = '\n')
    (hx : x ∈ (ofText o t).document) (he : e ∈ x.2) : IsWhole e.value := by
  refine ⟨?_, cr_not_mem_of_mem_ofText hx he⟩
  obtain ⟨l, hl, he⟩ := (mem_ofText hx).2.2.2.2 e he
  exact fun hc => Text.lf_not_mem_of_mem_lines ht hl (mem_of_entryOf? he hc)

end Parsed

end IniConfig
