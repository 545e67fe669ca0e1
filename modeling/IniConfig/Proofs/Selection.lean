import IniConfig.Proofs.Blocks

/-!
# Keeping some sections is reading all of them and dropping the rest

With names of sections to keep or to drop, a block whose header is excluded is left out, and the
reading ends early when the sections that were read are just those to keep, in their order. If the
text can be read whole, this gives the sections of the whole that are not excluded (`read_kept`).
What an early end leaves unread is no section to be kept: its name would be one of those to keep, so
it would be there already, and the whole text could not have been read (`kept_append_eq`).
-/

namespace IniConfig

/-- The same options without names of sections to keep or to drop. -/
def Options.unselective (o : Options) : Options := { o with included := [], excluded := [] }

/-- The sections of the document that the options keep. -/
def Document.kept (o : Options) (d : Document) : Document := d.filter fun x => !o.isExcluded x.1

namespace Document

variable {o : Options} {d d' : Document} {x : Text × Section}

theorem kept_append (o : Options) (d d' : Document) : (d ++ d').kept o = d.kept o ++ d'.kept o :=
  List.filter_append ..

theorem mem_kept_iff : x ∈ d.kept o ↔ x ∈ d ∧ o.isExcluded x.1 = false := by
  rw [kept, List.mem_filter, Bool.not_eq_true']

theorem names_kept_subset {name : Text} (h : name ∈ (d.kept o).names) : name ∈ d.names := by
  obtain ⟨x, hx, rfl⟩ := List.mem_map.1 h
  exact List.mem_map_of_mem (mem_kept_iff.1 hx).1

theorem kept_singleton_of_kept (h : o.isExcluded x.1 = false) : kept o [x] = [x] :=
  List.filter_cons_of_pos (by rw [h]; rfl)

theorem kept_singleton_of_excluded (h : o.isExcluded x.1 = true) : kept o [x] = [] :=
  List.filter_cons_of_neg (by rw [h]; decide)

/-- When all sections to be kept are there, no new name is kept. -/
theorem kept_append_eq (hc : Parsed.isComplete o (d.kept o).names)
    (hd : (d ++ d').names.Nodup) : (d ++ d').kept o = d.kept o := by
  have hnone : d'.kept o = [] := by
    refine List.filter_eq_nil_iff.2 fun x hx hkeep => ?_
    have hkept : o.isExcluded x.1 = false := by simpa using hkeep
    have hnew : x.1 ∉ d.names := by
      intro hthere
      rw [names_append, List.nodup_append] at hd
      exact hd.2.2 x.1 hthere x.1 (List.mem_map_of_mem hx) rfl
    exact hnew (names_kept_subset (Parsed.mem_of_isComplete hc hkept))
  rw [kept_append, hnone, List.append_nil]

end Document

namespace Block

variable {o : Options} {b : Block} {d d' : Document} {blocks : List Block}

theorem not_isExcluded_unselective (o : Options) (name : Text) :
    ¬ o.unselective.isExcluded name := by
  simp [Options.isExcluded, Options.unselective]

/-- The document is only added to. -/
theorem prefix_read (o : Options) (d : Document) (blocks : List Block) :
    d <+: (read o d blocks).document := by
  refine read_induction (P := fun d' => d <+: d') List.prefix_rfl fun b _ d₁ d₂ h₁ hadd => ?_
  rcases addTo_eq_ok hadd with rfl | ⟨name, -, -, -, -, -, rfl⟩
  · exact h₁
  · exact h₁.trans (List.prefix_append _ _)

/-- A block that adds to the whole adds to what is kept of it, or is left out of both. -/
theorem addTo_kept (h : b.addTo o.unselective d = .ok d') :
    b.addTo o (d.kept o) = .ok (d'.kept o) := by
  cases hb : b.name? with
  | none =>
    rw [addTo, hb] at h ⊢
    rw [eq_of_addOutside h]
    exact addOutside_eq_ok h _
  | some name =>
    have hall := not_isExcluded_unselective o name
    by_cases hn : name = []
    · subst hn
      rw [addTo_of_nil hb hall] at h
      rw [eq_of_addOutside h]
      by_cases hx : o.isExcluded []
      · exact addTo_of_excluded hb hx
      · rw [addTo_of_nil hb hx]
        exact addOutside_eq_ok h _
    · rw [addTo_of_kept hb hall hn] at h
      have hentries : b.entries o.unselective = b.entries o := rfl
      rw [hentries] at h
      by_cases hs : b.entries o = []
      · rw [if_pos hs] at h
        rw [← Except.ok.inj h]
        by_cases hx : o.isExcluded name
        · exact addTo_of_excluded hb hx
        · rw [addTo_of_kept hb hx hn, if_pos hs]
      · rw [if_neg hs] at h
        obtain ⟨hnew, rfl⟩ := Document.commit_eq_ok_iff.1 h
        rw [Document.kept_append]
        by_cases hx : o.isExcluded name
        · rw [Document.kept_singleton_of_excluded hx, List.append_nil]
          exact addTo_of_excluded hb hx
        · rw [Document.kept_singleton_of_kept (by simpa using hx), addTo_of_kept hb hx hn,
            if_neg hs]
          exact Document.commit_eq_ok_iff.2 ⟨fun hm => hnew (Document.names_kept_subset hm), rfl⟩

/-- Where the whole is read without fault, what is kept of it is read, whether or not the reading
ends early. -/
theorem read_kept (hd : d.names.Nodup) (h : (read o.unselective d blocks).fault? = none) :
    (read o (d.kept o) blocks).fault? = none ∧
      (read o (d.kept o) blocks).document = (read o.unselective d blocks).document.kept o := by
  induction blocks generalizing d with
  | nil => exact ⟨rfl, rfl⟩
  | cons b rest ih =>
    cases hadd : b.addTo o.unselective d with
    | error fault => rw [read, hadd] at h; cases h
    | ok d' =>
      have hd' : d'.names.Nodup := nodup_addTo hd hadd
      rw [read_cons_of_ok rfl hadd] at h ⊢
      rw [read, addTo_kept hadd]
      dsimp only
      split
      next hend =>
        -- the blocks that are not read add to the whole, but nothing that is kept
        obtain ⟨more, hmore⟩ := prefix_read o.unselective d' rest
        have hnodup : (d' ++ more).names.Nodup := by
          rw [hmore]
          exact nodup_read hd'
        rw [← hmore, Document.kept_append_eq hend.2 hnodup]
        exact ⟨rfl, rfl⟩
      · exact ih hd' h

end Block

/-- **A text that can be read whole is read with names to keep or to drop, and leaves the sections
of the whole that are not excluded, in their order.** -/
theorem Editor.document_parse_eq_kept {e whole : Editor} {t : Text}
    (ho : whole.options = e.options.unselective) (ht : (whole.parse t).1 = .ok .nothing) :
    (e.parse t).1 = .ok .nothing ∧
      (e.parse t).2.document = (whole.parse t).2.document.kept e.options ∧
      (e.parse t).2.readNames = ((whole.parse t).2.document.kept e.options).names := by
  have hwhole := parse_fst_eq_ok_iff.1 ht
  rw [ho, Parsed.ofText_eq_ofBlocks] at hwhole
  obtain ⟨hfault, hdocument⟩ := Block.read_kept (o := e.options) (d := []) List.nodup_nil hwhole
  have hkept : (e.parse t).2.document = (whole.parse t).2.document.kept e.options := by
    rw [document_parse, document_parse, ho, Parsed.ofText_eq_ofBlocks, Parsed.ofText_eq_ofBlocks]
    exact hdocument
  refine ⟨parse_fst_eq_ok_iff.2 ?_, hkept, ?_⟩
  · rw [Parsed.ofText_eq_ofBlocks]
    exact hfault
  · rw [readNames_parse, hkept]

/-- With `a` to keep, the reading ends at the header of `b`. The blocks of `[]` and of the second
`a` behind it have no entries, so the whole is read without fault as well. -/
theorem document_parse_keeping_one :
    (Editor.new {}).options = ({ included := ["a".toList] } : Options).unselective ∧
      ((Editor.new {}).parse "[a]\nx = 1\n[b]\ny = 2\n[]\n[a]".toList).1 = .ok .nothing ∧
      let e := Editor.new { included := ["a".toList] }
      (e.parse "[a]\nx = 1\n[b]\ny = 2\n[]\n[a]".toList).1 = .ok .nothing ∧
        (e.parse "[a]\nx = 1\n[b]\ny = 2\n[]\n[a]".toList).2.document =
          [("a".toList, [⟨"x".toList, "1".toList⟩])] ∧
        (e.parse "[a]\nx = 1\n[b]\ny = 2\n[]\n[a]".toList).2.readNames = ["a".toList] := by
  have hwhole : ((Editor.new {}).parse "[a]\nx = 1\n[b]\ny = 2\n[]\n[a]".toList).1 =
      .ok .nothing := rfl
  obtain ⟨hread, hdocument, hnames⟩ := Editor.document_parse_eq_kept
    (e := Editor.new { included := ["a".toList] }) rfl hwhole
  exact ⟨rfl, hwhole, hread, hdocument.trans (by decide), hnames.trans (by decide)⟩

end IniConfig
