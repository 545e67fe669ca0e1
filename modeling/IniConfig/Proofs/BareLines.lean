import IniConfig.Proofs.LineByLine
import Mathlib.Data.List.Basic

/-!
# Bare lines kept and not kept

Keeping bare lines adds entries to the sections, so sections without other entries join the document
too, and may be refused there. Without the bare lines there are fewer sections, and each of them is
one with them (`addTo_withoutBare`). So a text that is read with bare lines is read without them, and
leaves what is there less the bare lines; an entry outside of sections is a fault in either case; and
the only fault that bare lines bring about is a section that comes twice.

An entry whose key is written out as the reserved one cannot be told from a bare line in the
document, and so texts with such entries are left aside where documents are compared.
-/

namespace IniConfig

/-- The same options with bare lines kept or not. -/
def Options.keepingBare (o : Options) (keep : Bool) : Options := { o with keepBare := keep }

def Section.withoutBare (s : Section) : Section := s.filter (!·.isBare)

/-- The document without its bare lines, and without the sections that then have no entries. -/
def Document.withoutBare (d : Document) : Document :=
  (d.map fun (name, s) => (name, s.withoutBare)).filter fun x => x.2 ≠ []

def Line.isReserved : Line → Bool
  | entry key _ => key = Entry.bareKey
  | _ => false

namespace Document

variable {d d' : Document} {name : Text} {s : Section}

theorem withoutBare_append (d d' : Document) :
    (d ++ d').withoutBare = d.withoutBare ++ d'.withoutBare := by
  rw [withoutBare, List.map_append, List.filter_append]
  rfl

theorem withoutBare_singleton_of_nil (h : s.withoutBare = []) :
    withoutBare [(name, s)] = [] :=
  List.filter_cons_of_neg (by simp [h])

theorem withoutBare_singleton (h : s.withoutBare ≠ []) :
    withoutBare [(name, s)] = [(name, s.withoutBare)] :=
  List.filter_cons_of_pos (by simp [h])

end Document

namespace Block

variable {o : Options} {b : Block} {blocks : List Block} {d d' r : Document} {name : Text} {n : Nat}

/-! ## One block -/

theorem entries_eq_nil_of_keepingBare (h : b.entries (o.keepingBare true) = []) :
    b.entries (o.keepingBare false) = [] := by
  rw [entries, List.filterMap_eq_nil_iff] at h ⊢
  rintro ⟨n, line⟩ hline
  have hsilent : entryOf? (o.keepingBare true) line = none := h (n, line) hline
  cases line with
  | entry key value => cases hsilent
  | _ => rfl

theorem entries_keepingBare (hb : ∀ x ∈ b.lines, x.2.isReserved = false) :
    b.entries (o.keepingBare false) = (b.entries (o.keepingBare true)).withoutBare := by
  rw [Section.withoutBare, entries, entries, List.filter_filterMap]
  refine List.filterMap_congr ?_
  rintro ⟨n, line⟩ hline
  cases line with
  | entry key value =>
    have hkey : key ≠ Entry.bareKey := by simpa [Line.isReserved] using hb _ hline
    simp [entryOf?, Entry.isBare, Option.filter, hkey]
  | bare text => simp [entryOf?, Options.keepingBare, Option.filter]
  | _ => rfl

/-- A block outside of sections, one that is dropped, and one of a section: which of them a block is
does not depend on the bare lines. -/
theorem addTo_keepingBare_cases (o : Options) (b : Block) :
    (∀ keep d, b.addTo (o.keepingBare keep) d = b.addOutside d) ∨
      (∀ keep d, b.addTo (o.keepingBare keep) d = .ok d) ∨
      ∃ name, ∀ keep d, b.addTo (o.keepingBare keep) d =
        if b.entries (o.keepingBare keep) = [] then .ok d
        else d.commit name (b.entries (o.keepingBare keep)) := by
  cases hb : b.name? with
  | none =>
    left
    intro keep d
    rw [addTo, hb]
  | some name =>
    by_cases hx : o.isExcluded name
    · exact Or.inr (Or.inl fun keep d => addTo_of_excluded hb hx)
    · by_cases hn : name = []
      · subst hn
        exact Or.inl fun keep d => addTo_of_nil hb hx
      · exact Or.inr (Or.inr ⟨name, fun keep d => addTo_of_kept hb hx hn⟩)

/-- A block that is read with bare lines is read without them, onto a document with fewer names; and
what was there less the bare lines stays so. -/
theorem addTo_withoutBare (hnames : d'.names ⊆ d.names)
    (h : b.addTo (o.keepingBare true) d = .ok r) :
    ∃ r', b.addTo (o.keepingBare false) d' = .ok r' ∧ r'.names ⊆ r.names ∧
      ((∀ x ∈ b.lines, x.2.isReserved = false) → d' = d.withoutBare → r' = r.withoutBare) := by
  rcases addTo_keepingBare_cases o b with hadd | hadd | ⟨name, hadd⟩
  · rw [hadd] at h
    obtain rfl := eq_of_addOutside h
    exact ⟨d', (hadd ..).trans (addOutside_eq_ok h d'), hnames, fun _ hd => hd⟩
  · rw [hadd] at h
    obtain rfl := Except.ok.inj h
    exact ⟨d', hadd .., hnames, fun _ hd => hd⟩
  · rw [hadd] at h
    rw [hadd]
    by_cases hs : b.entries (o.keepingBare true) = []
    · rw [if_pos hs] at h
      obtain rfl := Except.ok.inj h
      rw [if_pos (entries_eq_nil_of_keepingBare hs)]
      exact ⟨d', rfl, hnames, fun _ hd => hd⟩
    · rw [if_neg hs] at h
      obtain ⟨hnew, rfl⟩ := Document.commit_eq_ok_iff.1 h
      by_cases hs' : b.entries (o.keepingBare false) = []
      · -- the section has bare lines only, and is not there without them
        rw [if_pos hs']
        refine ⟨d', rfl, ?_, ?_⟩
        · rw [Document.names_append]
          exact List.subset_append_of_subset_left _ hnames
        · intro hlines hd
          rw [entries_keepingBare hlines] at hs'
          rw [Document.withoutBare_append, Document.withoutBare_singleton_of_nil hs',
            List.append_nil, hd]
      · rw [if_neg hs']
        have hnew' : name ∉ d'.names := fun hm => hnew (hnames hm)
        refine ⟨_, Document.commit_eq_ok_iff.2 ⟨hnew', rfl⟩, ?_, ?_⟩
        · rw [Document.names_append, Document.names_append]
          exact List.append_subset.2 ⟨List.subset_append_of_subset_left _ hnames,
            List.subset_append_right _ _⟩
        · intro hlines hd
          rw [entries_keepingBare hlines] at hs' ⊢
          rw [Document.withoutBare_append, Document.withoutBare_singleton hs', hd]

theorem addTo_eq_outside (h : b.addTo (o.keepingBare true) d = .error (.entryOutsideSection n))
    (d' : Document) :
    b.addTo (o.keepingBare false) d' = .error (.entryOutsideSection n) := by
  rcases addTo_keepingBare_cases o b with hadd | hadd | ⟨name, hadd⟩
  · rw [hadd] at h ⊢
    unfold addOutside at h ⊢
    split at h
    · rw [Except.error.inj h]
    · cases h
  · rw [hadd] at h
    cases h
  · rw [hadd] at h
    split at h
    · cases h
    · unfold Document.commit at h
      split at h <;> cases h

/-! ## All blocks -/

theorem read_eq_outside (hi : o.included = []) (hnames : d'.names ⊆ d.names)
    (h : (read (o.keepingBare true) d blocks).fault? = some (.entryOutsideSection n)) :
    (read (o.keepingBare false) d' blocks).fault? = some (.entryOutsideSection n) := by
  induction blocks generalizing d d' with
  | nil => cases h
  | cons b rest ih =>
    cases hadd : b.addTo (o.keepingBare true) d with
    | error fault =>
      rw [read_cons_of_error hadd] at h
      obtain rfl := Option.some.inj h
      rw [read_cons_of_error (addTo_eq_outside hadd d')]
    | ok r =>
      obtain ⟨r', hadd', hr, -⟩ := addTo_withoutBare hnames hadd
      rw [read_cons_of_ok (o := o.keepingBare true) hi hadd] at h
      rw [read_cons_of_ok (o := o.keepingBare false) hi hadd']
      exact ih hr h

theorem read_withoutBare (hi : o.included = []) (hnames : d'.names ⊆ d.names)
    (h : (read (o.keepingBare true) d blocks).fault? = none) :
    (read (o.keepingBare false) d' blocks).fault? = none ∧
      ((∀ b ∈ blocks, ∀ x ∈ b.lines, x.2.isReserved = false) → d' = d.withoutBare →
        (read (o.keepingBare false) d' blocks).document =
          (read (o.keepingBare true) d blocks).document.withoutBare) := by
  induction blocks generalizing d d' with
  | nil => exact ⟨rfl, fun _ hd => hd⟩
  | cons b rest ih =>
    cases hadd : b.addTo (o.keepingBare true) d with
    | error fault => rw [read_cons_of_error hadd] at h; cases h
    | ok r =>
      obtain ⟨r', hadd', hr, hsame⟩ := addTo_withoutBare hnames hadd
      rw [read_cons_of_ok (o := o.keepingBare true) hi hadd] at h ⊢
      rw [read_cons_of_ok (o := o.keepingBare false) hi hadd']
      obtain ⟨hfault, hdocument⟩ := ih hr h
      refine ⟨hfault, fun hlines hd => hdocument ?_ ?_⟩
      · intro b' hb'
        exact hlines b' (List.mem_cons_of_mem _ hb')
      · exact hsame (hlines b List.mem_cons_self) hd

end Block

/-! ## Texts -/

namespace Editor

variable {o : Options} {kept lost : Editor}

/-- **Keeping bare lines adds nothing else to a text that is read, and no other fault than a section
that comes twice.** -/
theorem parse_keepingBare (ho : o.prepare? = none) (hi : o.included = [])
    (hkept : kept.options = o.keepingBare true) (hlost : lost.options = o.keepingBare false)
    (t : Text) :
    ((∀ l ∈ t.lines, (Line.classify l).isReserved = false) → (kept.parse t).1 = .ok .nothing →
        (lost.parse t).1 = .ok .nothing ∧
          (lost.parse t).2.document = (kept.parse t).2.document.withoutBare) ∧
      (∀ n, (kept.parse t).1 = .error (.entryOutsideSection n) →
        (lost.parse t).1 = .error (.entryOutsideSection n)) ∧
      ((lost.parse t).1 = .ok .nothing → ∀ fault, (kept.parse t).1 = .error fault →
        ∃ name, fault = .duplicateSection name) := by
  have htext : ∀ keep, Parsed.ofText (o.keepingBare keep) t =
      Block.read (o.keepingBare keep) [] (Block.cut (t.lines.map Line.classify)) := by
    intro keep
    rw [Parsed.ofText_of_prepare?_eq_none (o := o.keepingBare keep) ho, Parsed.ofLines_eq_read]
  have houtside : ∀ n, (kept.parse t).1 = .error (.entryOutsideSection n) →
      (lost.parse t).1 = .error (.entryOutsideSection n) := by
    intro n h
    rw [parse_fst_eq_error_iff, hkept, htext] at h
    rw [parse_fst_eq_error_iff, hlost, htext]
    exact Block.read_eq_outside hi (List.Subset.refl _) h
  refine ⟨?_, houtside, ?_⟩
  · intro hlines h
    rw [parse_fst_eq_ok_iff, hkept, htext] at h
    rw [parse_fst_eq_ok_iff, document_parse, document_parse, hkept, hlost, htext, htext]
    obtain ⟨hfault, hdocument⟩ := Block.read_withoutBare hi (List.Subset.refl _) h
    refine ⟨hfault, hdocument ?_ rfl⟩
    rintro b hb ⟨n, line⟩ hx
    obtain ⟨-, hline⟩ := Block.getElem?_of_mem_cut hb hx
    obtain ⟨l, hl, rfl⟩ := List.mem_map.1 (List.mem_of_getElem? hline)
    exact hlines l hl
  · intro hread fault hfault
    have hparse := Parsed.isParseFault_of_ofLines (parse_fst_eq_error_iff.1 hfault)
    cases fault with
    | duplicateSection name => exact ⟨name, rfl⟩
    | entryOutsideSection n =>
      rw [houtside n hfault] at hread
      cases hread
    | _ => cases hparse

end Editor

/-- Of three sections, the middle one has a bare line only, and goes with it; where it comes a second
time with an entry, keeping the bare line is a fault. -/
theorem parse_keepingBare_three_sections :
    let kept := Editor.new { keepBare := true }
    let lost := Editor.new {}
    let t : Text := "[a]\nx = 1\nbare\n[b]\nbare\n[c]\ny = 2\n".toList
    let twice : Text := "[b]\nbare\n[b]\ny = 2\n".toList
    (kept.parse t).2.document.names = ["a".toList, "b".toList, "c".toList] ∧
      (lost.parse t).1 = .ok .nothing ∧
      (lost.parse t).2.document =
        [("a".toList, [⟨"x".toList, "1".toList⟩]), ("c".toList, [⟨"y".toList, "2".toList⟩])] ∧
      (lost.parse twice).1 = .ok .nothing ∧
      (kept.parse twice).1 = .error (.duplicateSection "b".toList) ∧
      (lost.parse "[a]\nbare\n[]\nz = 3\n".toList).1 = .error (.entryOutsideSection 4) := by
  intro kept lost t twice
  have hkept : kept.options = Options.keepingBare {} true := rfl
  have hlost : lost.options = Options.keepingBare {} false := rfl
  have hlaw := Editor.parse_keepingBare rfl rfl hkept hlost
  have hlines : ∀ l ∈ t.lines, (Line.classify l).isReserved = false := by decide
  obtain ⟨hread, hdocument⟩ := (hlaw t).1 hlines rfl
  refine ⟨rfl, hread, hdocument.trans (by decide), rfl, rfl, ?_⟩
  exact (hlaw _).2.1 4 rfl

end IniConfig
