import IniConfig.Block
import IniConfig.Proofs.EndedLines
import IniConfig.Proofs.LineForms

/-!
# Entries and the lines that are written for them

An entry is written as one line, and a line gives at most one entry. What a line gives is tidy
(`isTidy_of_entryOf?`), and the line of an entry gives the entry back in exactly two cases: the
entry is restorable (`entryOf?_render_iff`), or it is kept without structure and its value is a
bare line again (`entryOf?_render_bare_iff`).
-/

namespace IniConfig

open Text (IsWhole)

/-- A key and a value as a line can say them. -/
structure Entry.IsTidy (e : Entry) : Prop where
  key_trimmed : Text.trim e.key = e.key
  value_trimmed : Text.trim e.value = e.value
  key_whole : IsWhole e.key
  value_whole : IsWhole e.value
  no_equals : '=' ∉ e.key

instance (e : Entry) : Decidable e.IsTidy :=
  decidable_of_iff
    (Text.trim e.key = e.key ∧ Text.trim e.value = e.value ∧ IsWhole e.key ∧ IsWhole e.value ∧
      '=' ∉ e.key)
    ⟨fun ⟨h₁, h₂, h₃, h₄, h₅⟩ => ⟨h₁, h₂, h₃, h₄, h₅⟩,
      fun ⟨h₁, h₂, h₃, h₄, h₅⟩ => ⟨h₁, h₂, h₃, h₄, h₅⟩⟩

/-- A tidy entry whose line is neither a comment nor too long. -/
structure Entry.IsRestorable (e : Entry) : Prop extends e.IsTidy where
  not_comment : ¬ Line.IsComment e.key
  length_le : e.key.length + e.value.length ≤ 4093

instance (e : Entry) : Decidable e.IsRestorable :=
  decidable_of_iff
    (e.IsTidy ∧ ¬ Line.IsComment e.key ∧ e.key.length + e.value.length ≤ 4093)
    ⟨fun ⟨h₁, h₂, h₃⟩ => ⟨h₁, h₂, h₃⟩, fun ⟨h₁, h₂, h₃⟩ => ⟨h₁, h₂, h₃⟩⟩

/-- A text that is one line without structure. -/
structure Text.IsBareLine (t : Text) : Prop where
  ne_nil : t ≠ []
  length_le : t.length ≤ 4096
  whole : IsWhole t
  no_equals : '=' ∉ t
  not_comment : ¬ Line.IsComment t
  not_bracketed : ¬ Line.IsBracketed t

instance (t : Text) : Decidable (Text.IsBareLine t) :=
  decidable_of_iff
    (t ≠ [] ∧ t.length ≤ 4096 ∧ IsWhole t ∧ '=' ∉ t ∧ ¬ Line.IsComment t ∧ ¬ Line.IsBracketed t)
    ⟨fun ⟨h₁, h₂, h₃, h₄, h₅, h₆⟩ => ⟨h₁, h₂, h₃, h₄, h₅, h₆⟩,
      fun ⟨h₁, h₂, h₃, h₄, h₅, h₆⟩ => ⟨h₁, h₂, h₃, h₄, h₅, h₆⟩⟩

theorem Text.isBareLine_iff {t : Text} :
    IsBareLine t ↔ Line.classify t = .bare t ∧ IsWhole t := by
  rw [Line.classify_eq_iff]
  constructor
  · intro h
    exact ⟨.bare ⟨h.ne_nil, h.length_le, h.not_comment⟩ (Or.inr ⟨h.no_equals, h.not_bracketed⟩),
      h.whole⟩
  · rintro ⟨hform, hw⟩
    cases hform with
    | bare hr h =>
      have hne := h.resolve_left hw.1
      exact ⟨hr.ne_nil, hr.length_le, hw, hne.1, hr.not_comment, hne.2⟩

/-! ## What a line gives -/

variable {o : Options} {l : Text} {e : Entry}

theorem Block.entryOf?_eq_some_iff {line : Line} :
    entryOf? o line = some e ↔
      line = .entry e.key e.value ∨ o.keepBare ∧ e.key = Entry.bareKey ∧ line = .bare e.value := by
  obtain ⟨key, value⟩ := e
  cases line with
  | skipped => simp [entryOf?]
  | header name => simp [entryOf?]
  | entry k v => simp [entryOf?]
  | bare t =>
    cases hb : o.keepBare with
    | false => simp [entryOf?, hb]
    | true => simp [entryOf?, hb, Entry.ofBare, @eq_comm _ Entry.bareKey]

theorem Text.IsWhole.of_subset {t : Text} (h : IsWhole l) (ht : ∀ c ∈ t, c ∈ l) : IsWhole t :=
  ⟨fun hc => h.1 (ht _ hc), fun hc => h.2 (ht _ hc)⟩

theorem isTidy_of_classify {key value : Text} (h : Line.classify l = .entry key value)
    (hr : '\r' ∉ l) : Entry.IsTidy ⟨key, value⟩ := by
  cases Line.classify_eq_iff.1 h with
  | @entry k v _ hn ht hk =>
    have hl : IsWhole l := ⟨hn, hr⟩
    have hkl : ∀ c ∈ Text.trim k, c ∈ l := fun c hc => by
      rw [ht]; exact List.mem_append_left _ (Text.mem_of_mem_trim hc)
    have hvl : ∀ c ∈ Text.trim v, c ∈ l := fun c hc => by
      rw [ht]; exact List.mem_append_right _ (List.mem_cons_of_mem _ (Text.mem_of_mem_trim hc))
    exact ⟨Text.trim_trim k, Text.trim_trim v, hl.of_subset hkl, hl.of_subset hvl,
      fun he => hk (Text.mem_of_mem_trim he)⟩

/-- A line is longer than the value behind its `=`. -/
theorem length_lt_of_classify {key value : Text} (h : Line.classify l = .entry key value) :
    value.length < l.length := by
  cases Line.classify_eq_iff.1 h with
  | @entry k v _ _ ht _ =>
    have := Text.length_trim_le v
    rw [ht, List.length_append, List.length_cons]
    omega

theorem isRead_of_entryOf? (h : Block.entryOf? o (Line.classify l) = some e) : Line.IsRead l := by
  refine Classical.byContradiction fun hr => ?_
  rw [Line.classify_of_not_isRead hr] at h
  cases h

/-- An entry with a key of its own that a line gives is tidy. -/
theorem isTidy_of_entryOf? (h : Block.entryOf? o (Line.classify l) = some e) (hr : '\r' ∉ l)
    (hk : e.key ≠ Entry.bareKey) : e.IsTidy := by
  rcases Block.entryOf?_eq_some_iff.1 h with h | ⟨-, hbare, -⟩
  · exact isTidy_of_classify h hr
  · exact absurd hbare hk

/-- The value of an entry that a line gives stands in the line. -/
theorem mem_of_entryOf? (h : Block.entryOf? o (Line.classify l) = some e) {c : Char}
    (hc : c ∈ e.value) : c ∈ l := by
  rcases Block.entryOf?_eq_some_iff.1 h with h | ⟨-, -, h⟩
  · generalize e.key = key, e.value = value at h hc
    cases Line.classify_eq_iff.1 h with
    | entry _ _ ht _ =>
      rw [ht]
      exact List.mem_append_right _ (List.mem_cons_of_mem _ (Text.mem_of_mem_trim hc))
  · generalize e.value = value at h hc
    cases Line.classify_eq_iff.1 h with
    | bare => exact hc

/-! ## What the line of an entry gives -/

/-- The line of an entry with a key of its own gives the entry if the entry is restorable. -/
theorem entryOf?_render_iff (hk : e.key ≠ Entry.bareKey) (hkey : IsWhole e.key)
    (hvalue : IsWhole e.value) :
    Block.entryOf? o (Line.classify e.render) = some e ↔ e.IsRestorable := by
  have hrender : e.render = e.key ++ ' ' :: '=' :: ' ' :: e.value := by
    rw [Entry.render_of_key_ne hk, List.append_assoc]; rfl
  have hwhole : IsWhole e.render := by
    rw [hrender]
    simpa [IsWhole] using ⟨⟨hkey.1, hvalue.1⟩, hkey.2, hvalue.2⟩
  have hlength : e.render.length = e.key.length + e.value.length + 3 := by
    rw [hrender]; simp only [List.length_append, List.length_cons]; omega
  have hcomment : Line.IsComment e.render ↔ Line.IsComment e.key := by
    rw [hrender]
    cases e.key with
    | nil => simp [Line.IsComment]
    | cons c k => exact Iff.rfl
  constructor
  · intro h
    have hread := isRead_of_entryOf? h
    refine ⟨isTidy_of_entryOf? h hwhole.2 hk, fun hc => hread.not_comment (hcomment.2 hc), ?_⟩
    have := hread.length_le
    unfold Line.maxLength at this
    omega
  · intro h
    have hform : Line.HasForm e.render
        (.entry (Text.trim (e.key ++ [' '])) (Text.trim (' ' :: e.value))) := by
      refine .entry ⟨?_, ?_, ?_⟩ hwhole.1 ?_ ?_
      · rw [hrender]; simp
      · have := h.length_le
        unfold Line.maxLength
        omega
      · exact fun hc => h.not_comment (hcomment.1 hc)
      · rw [hrender, List.append_assoc]; rfl
      · simpa using h.no_equals
    rw [Text.trim_append_of_blank (by decide), Text.trim_cons_of_blank (by decide), h.key_trimmed,
      h.value_trimmed] at hform
    exact Block.entryOf?_eq_some_iff.2 (Or.inl hform.classify_eq)

/-- The line of an entry without structure gives the entry if such lines are kept and the value is
one. -/
theorem entryOf?_render_bare_iff (hk : e.key = Entry.bareKey) (hvalue : IsWhole e.value) :
    Block.entryOf? o (Line.classify e.render) = some e ↔
      o.keepBare ∧ Text.IsBareLine e.value := by
  rw [Entry.render_of_key_eq hk, Block.entryOf?_eq_some_iff, Text.isBareLine_iff]
  constructor
  · rintro (h | ⟨ho, -, h⟩)
    · exact absurd (length_lt_of_classify h) (Nat.lt_irrefl _)
    · exact ⟨ho, h, hvalue⟩
  · rintro ⟨ho, h, -⟩
    exact Or.inr ⟨ho, hk, h⟩

end IniConfig
