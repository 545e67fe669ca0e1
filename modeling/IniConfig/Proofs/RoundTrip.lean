import IniConfig.Proofs.LineByLine
import IniConfig.Proofs.ReadDocuments
import IniConfig.Proofs.Snapshots

/-!
# Documents that come back from their text

A document is written as text and read again. Written lines that say what they were written for
give the document back (`ofText_render`); and no other document comes back by accident
(`isRestorable_of_document_eq`): an entry whose line says something else leaves the text with fewer
entries than the document, since every line gives at most one and the entries keep their order.
-/

namespace IniConfig

open Text (IsWhole)

/-- The document is tidy, and the line of each entry gives the entry. -/
structure Document.IsRestorable (o : Options) (d : Document) : Prop where
  heading : ∀ x ∈ d, o.IsHeading x.1
  filled : ∀ x ∈ d, x.2 ≠ []
  keyed : ∀ x ∈ d, ∀ e ∈ x.2, e.key ≠ Entry.bareKey → e.IsRestorable
  bare : ∀ x ∈ d, ∀ e ∈ x.2, e.key = Entry.bareKey → o.keepBare ∧ Text.IsBareLine e.value

instance (o : Options) (d : Document) : Decidable (d.IsRestorable o) :=
  decidable_of_iff
    ((∀ x ∈ d, o.IsHeading x.1) ∧ (∀ x ∈ d, x.2 ≠ []) ∧
      (∀ x ∈ d, ∀ e ∈ x.2, e.key ≠ Entry.bareKey → e.IsRestorable) ∧
      ∀ x ∈ d, ∀ e ∈ x.2, e.key = Entry.bareKey → o.keepBare ∧ Text.IsBareLine e.value)
    ⟨fun ⟨h₁, h₂, h₃, h₄⟩ => ⟨h₁, h₂, h₃, h₄⟩, fun ⟨h₁, h₂, h₃, h₄⟩ => ⟨h₁, h₂, h₃, h₄⟩⟩

variable {o : Options} {d : Document} {x : Text × Section} {e : Entry}

/-! ## What the written lines give -/

/-- Each line of the entries gives its entry. -/
theorem Document.IsRestorable.entryOf?_render (h : d.IsRestorable o) (hx : x ∈ d) (he : e ∈ x.2) :
    Block.entryOf? o (Line.classify e.render) = some e := by
  by_cases hk : e.key = Entry.bareKey
  · have hbare := h.bare x hx e he hk
    exact (entryOf?_render_bare_iff hk hbare.2.whole).2 hbare
  · have hkeyed := h.keyed x hx e he hk
    exact (entryOf?_render_iff hk hkeyed.key_whole hkeyed.value_whole).2 hkeyed

theorem isWhole_render (hk : e.key ≠ Entry.bareKey → IsWhole e.key) (hv : IsWhole e.value) :
    IsWhole e.render := by
  by_cases hb : e.key = Entry.bareKey
  · rwa [Entry.render_of_key_eq hb]
  · have hkey := hk hb
    rw [Entry.render_of_key_ne hb]
    simpa [IsWhole] using ⟨⟨hkey.1, hv.1⟩, hkey.2, hv.2⟩

theorem Options.IsHeading.isWhole_header {name : Text} (h : o.IsHeading name) :
    IsWhole (Section.header name) := by
  have hw := h.whole
  simpa [IsWhole, Section.header] using hw

/-- The lines that are written for a document are whole if its names and entries are. -/
theorem Document.isWhole_of_mem_writtenLines {l : Text} (hname : ∀ x ∈ d, o.IsHeading x.1)
    (hkey : ∀ x ∈ d, ∀ e ∈ x.2, e.key ≠ Entry.bareKey → IsWhole e.key)
    (hvalue : ∀ x ∈ d, ∀ e ∈ x.2, IsWhole e.value) (hl : l ∈ d.writtenLines) : IsWhole l := by
  obtain ⟨x, hx, hl⟩ := List.mem_flatMap.1 hl
  rcases List.mem_append.1 hl with hl | hl
  · rcases List.mem_cons.1 hl with rfl | hl
    · exact (hname x hx).isWhole_header
    · obtain ⟨e, he, rfl⟩ := List.mem_map.1 hl
      exact isWhole_render (hkey x hx e he) (hvalue x hx e he)
  · rw [List.mem_singleton.1 hl]
    exact ⟨List.not_mem_nil, List.not_mem_nil⟩

theorem Document.IsRestorable.isWhole_of_mem {l : Text} (h : d.IsRestorable o)
    (hl : l ∈ d.writtenLines) : IsWhole l := by
  refine isWhole_of_mem_writtenLines h.heading (fun x hx e he hk => (h.keyed x hx e he hk).key_whole)
    (fun x hx e he => ?_) hl
  by_cases hk : e.key = Entry.bareKey
  · exact (h.bare x hx e he hk).2.whole
  · exact (h.keyed x hx e he hk).value_whole

/-! ## Reading the written lines -/

namespace Parsed

open Progress

variable {p q : Progress}

/-- A line that gives an entry adds it to the open section. -/
theorem passes_of_entryOf? {line : Line} (he : Block.entryOf? o line = some e)
    (hd : p.dropping = false) (ho : p.open?.isSome) : Passes o p line (p.push e) := by
  rcases Block.entryOf?_eq_some_iff.1 he with rfl | ⟨hkeep, hk, rfl⟩
  · exact .entry hd ho
  · have hbare : Entry.ofBare e.value = e := by rw [Entry.ofBare, ← hk]
    have hpass : Passes o p (.bare e.value) (p.push (.ofBare e.value)) :=
      .bare (by rw [hkeep, hd]; rfl)
    rwa [hbare] at hpass

/-- Lines that give the entries of a section, one each, fill the open section with them. -/
theorem ofLinesFrom_append_of_open {name : Text} {s r : Section} {lines : List Line}
    (hs : lines.map (Block.entryOf? o) = s.map some) (n : Nat) (rest : List Line)
    (hd : p.dropping = false) (ho : p.open? = some (name, r)) :
    ofLinesFrom o n p (lines ++ rest) =
      ofLinesFrom o (n + lines.length) { p with open? := some (name, r ++ s) } rest := by
  induction lines generalizing n p s r with
  | nil =>
    obtain rfl : s = [] := by simpa using hs.symm
    rw [List.append_nil, ← ho]
    rfl
  | cons line lines ih =>
    cases s with
    | nil => cases hs
    | cons e s =>
      obtain ⟨he, hs⟩ := List.cons.inj hs
      have hpass : Passes o p line (p.push e) := passes_of_entryOf? he hd (by rw [ho]; rfl)
      rw [List.cons_append, hpass.ofLinesFrom_cons,
        ih hs (n + 1) (p := p.push e) (r := r ++ [e]) hd (by simp [push, ho])]
      simp only [push, List.append_assoc, List.singleton_append, List.length_cons,
        Nat.add_comm lines.length 1, Nat.add_assoc]

theorem map_classify_writtenLines {name : Text} {s : Section} (h : o.IsHeading name)
    (ls : List Text) :
    (s.writtenLines name ++ ls).map Line.classify =
      .header name :: ((s.map fun e => Line.classify e.render) ++
        .skipped :: ls.map Line.classify) := by
  have hempty : Line.classify [] = .skipped := rfl
  simp [Section.writtenLines, h.classify_header, hempty]

/-- The written lines add the sections to those that are closed by then. -/
theorem ofLinesFrom_writtenLines (n : Nat) (hd : d.IsRestorable o) (hp : p.close = .ok q)
    (hq : q.Aligned) (hnew : (q.done.names ++ d.names).Nodup) :
    ofLinesFrom o n p ((d.writtenLines ++ [[]]).map Line.classify) =
      ⟨q.done ++ d, q.done.names ++ d.names, none⟩ := by
  induction d generalizing n p q with
  | nil =>
    have hstop : ofLinesFrom o n p [.skipped] = q.stop none := by simp [ofLinesFrom, hp]
    rw [List.append_nil, Document.names_nil, List.append_nil, ← stop_eq hq]
    exact hstop
  | cons x d ih =>
    obtain ⟨name, s⟩ := x
    have hx : (name, s) ∈ (name, s) :: d := List.mem_cons_self
    have hheading : o.IsHeading name := hd.heading _ hx
    have hname : name ∉ q.done.names := by
      intro hm
      exact (List.nodup_append.1 hnew).2.2 name hm name List.mem_cons_self rfl
    have hentries : (s.map fun e => Line.classify e.render).map (Block.entryOf? o) =
        s.map some := by
      rw [List.map_map]
      exact List.map_congr_left fun e he => hd.entryOf?_render hx he
    have hrest : Document.IsRestorable o d :=
      ⟨fun x hx => hd.heading x (List.mem_cons_of_mem _ hx),
        fun x hx => hd.filled x (List.mem_cons_of_mem _ hx),
        fun x hx => hd.keyed x (List.mem_cons_of_mem _ hx),
        fun x hx => hd.bare x (List.mem_cons_of_mem _ hx)⟩
    have hpass : Passes o p (.header name) (q.opened o name) :=
      .header hp (isComplete_eq_false hheading.kept (by rwa [show q.read = q.done.names from hq]))
    have hopened : (q.opened o name).open? = some (name, []) := if_neg hheading.ne_nil
    have hcommit : q.done.commit name s = .ok (q.done ++ [(name, s)]) :=
      Document.commit_eq_ok_iff.2 ⟨hname, rfl⟩
    have hclose := close_of_filled
      (p := { q.opened o name with open? := some (name, [] ++ s) }) rfl (hd.filled _ hx)
    change _ = (q.done.commit name s).map _ at hclose
    rw [hcommit] at hclose
    rw [Document.writtenLines_cons, List.append_assoc, map_classify_writtenLines hheading,
      hpass.ofLinesFrom_cons, ofLinesFrom_append_of_open hentries _ _ hheading.kept hopened,
      ofLinesFrom]
    rw [ih _ hrest hclose (hq.read_append hcommit) (by simpa using hnew)]
    simp

end Parsed

/-- **A restorable document is read back from its text.** -/
theorem ofText_render (ho : o.prepare? = none) (hd : d.IsRestorable o) (hn : d.names.Nodup) :
    Parsed.ofText o d.render = ⟨d, d.names, none⟩ := by
  rw [Parsed.ofText, Options.prepared, ho, Document.lines_render fun l hl => hd.isWhole_of_mem hl]
  exact Parsed.ofLinesFrom_writtenLines (p := {}) (q := {}) 1 hd rfl rfl (by simpa using hn)

/-! ## No other document is read back -/

theorem eq_some_of_sublist_filterMap {α : Type} {f : α → Option α} {xs : List α}
    (h : xs.Sublist (xs.filterMap f)) : ∀ x ∈ xs, f x = some x := by
  have heq : xs = xs.filterMap f := h.eq_of_length_le (List.length_filterMap_le f xs)
  clear h
  induction xs with
  | nil => exact fun x hx => nomatch hx
  | cons x xs ih =>
    cases hf : f x with
    | none =>
      have hlen := congrArg List.length heq
      have hle := List.length_filterMap_le f xs
      rw [List.filterMap_cons_none hf, List.length_cons] at hlen
      omega
    | some y =>
      rw [List.filterMap_cons_some hf] at heq
      obtain ⟨hxy, htail⟩ := List.cons.inj heq
      intro z hz
      rcases List.mem_cons.1 hz with rfl | hz
      · rw [hf, ← hxy]
      · exact ih htail z hz

/-- The written lines give entries where entries were written, and nowhere else. -/
theorem filterMap_writtenLines (hd : ∀ x ∈ d, o.IsHeading x.1) :
    (d.writtenLines ++ [[]]).filterMap (fun l => Block.entryOf? o (Line.classify l)) =
      d.entries.filterMap fun e => Block.entryOf? o (Line.classify e.render) := by
  have hempty : Block.entryOf? o (Line.classify []) = none := rfl
  induction d with
  | nil => rfl
  | cons x d ih =>
    have hrest := ih fun x hx => hd x (List.mem_cons_of_mem _ hx)
    have hheader : Block.entryOf? o (Line.classify (Section.header x.1)) = none := by
      rw [(hd x List.mem_cons_self).classify_header]
      rfl
    have hfirst : (x.2.writtenLines x.1).filterMap (fun l => Block.entryOf? o (Line.classify l)) =
        x.2.filterMap fun e => Block.entryOf? o (Line.classify e.render) := by
      simp only [Section.writtenLines, List.filterMap_append, List.filterMap_cons, hheader, hempty,
        List.filterMap_nil, List.append_nil, List.filterMap_map]
      rfl
    rw [Document.writtenLines_cons, List.append_assoc, List.filterMap_append, hrest, hfirst,
      ← List.filterMap_append]
    rfl

/-- A document that is read back from its text is restorable. -/
theorem isRestorable_of_document_eq (ho : o.prepare? = none)
    (h : (Parsed.ofText o d.render).document = d) : d.IsRestorable o := by
  have htidy : d.IsTidy o := by
    have := Parsed.isTidy_ofText o d.render
    rwa [h] at this
  have hvalue : ∀ x ∈ d, ∀ e ∈ x.2, IsWhole e.value := by
    intro x hx e he
    have hdelim : (o.prepared d.render).delimiter = '\n' := by
      rw [Options.prepared, ho]
      exact Document.delimiter_render (List.ne_nil_of_mem hx)
    exact Parsed.isWhole_of_mem_ofText hdelim (h.symm ▸ hx) he
  have hkey : ∀ x ∈ d, ∀ e ∈ x.2, e.key ≠ Entry.bareKey → IsWhole e.key :=
    fun x hx e he hk => (htidy.tidy x hx e he hk).key_whole
  have hlines : (o.prepared d.render).lines = d.writtenLines ++ [[]] := by
    rw [Options.prepared, ho]
    exact Document.lines_render fun l hl =>
      Document.isWhole_of_mem_writtenLines htidy.heading hkey hvalue hl
  have hsub := Parsed.sublist_ofText o d.render
  rw [h, hlines, filterMap_writtenLines htidy.heading] at hsub
  have hgives : ∀ x ∈ d, ∀ e ∈ x.2, Block.entryOf? o (Line.classify e.render) = some e :=
    fun x hx e he => eq_some_of_sublist_filterMap hsub e (List.mem_flatMap.2 ⟨x, hx, he⟩)
  refine ⟨htidy.heading, htidy.filled, fun x hx e he hk => ?_, fun x hx e he hk => ?_⟩
  · exact (entryOf?_render_iff hk (hkey x hx e he hk) (hvalue x hx e he)).1 (hgives x hx e he)
  · exact (entryOf?_render_bare_iff hk (hvalue x hx e he)).1 (hgives x hx e he)

/-! ## Documents that come back -/

namespace Editor

variable {editor : Editor} {t : Text}

/-- What was read without fault counts, so it is written again. -/
theorem render_parse (ht : (editor.parse t).1 = .ok .nothing) :
    (editor.parse t).2.render = (editor.parse t).2.document.render := by
  have hparsed : (editor.parse t).2.parsed = true := by
    rw [parsed_parse, parse_fst_eq_ok_iff.1 ht]
    rfl
  rw [render, if_pos hparsed]

end Editor

/-- A new editor that reads the text of the document holds the document. -/
def Document.ComesBack (o : Options) (d : Document) : Prop :=
  ((Editor.new o).parse d.render).1 = .ok .nothing ∧
    ((Editor.new o).parse d.render).2.document = d

theorem Document.comesBack_iff (ho : o.prepare? = none) (hn : d.names.Nodup) :
    d.ComesBack o ↔ d.IsRestorable o := by
  rw [ComesBack, Editor.parse_fst_eq_ok_iff, Editor.document_parse]
  constructor
  · rintro ⟨-, h⟩
    exact isRestorable_of_document_eq ho h
  · intro h
    rw [show (Editor.new o).options = o from rfl, ofText_render ho h hn]
    exact ⟨rfl, rfl⟩

/-- **A document that was built comes back from its text exactly if it is restorable.** -/
theorem comesBack_performAll_iff (ho : o.prepare? = none) (ops : List Operation) :
    (CachedDocument.empty.performAll ops).2.document.ComesBack o ↔
      (CachedDocument.empty.performAll ops).2.document.IsRestorable o :=
  Document.comesBack_iff ho (CachedDocument.exists_performAll_iff.1 ⟨ops, rfl⟩)

/-- A document with an entry comes back; with a section that lacks entries it would not. -/
theorem comesBack_one_entry_not_empty_section :
    ({} : Options).prepare? = none ∧
      Document.ComesBack {} [("a".toList, [⟨"k".toList, "v".toList⟩])] ∧
      ¬ Document.ComesBack {} [("a".toList, [⟨"k".toList, "v".toList⟩]), ("b".toList, [])] := by
  have hone := comesBack_performAll_iff (o := {}) rfl
    [.append "a".toList ⟨"k".toList, "v".toList⟩]
  have htwo := comesBack_performAll_iff (o := {}) rfl
    [.append "a".toList ⟨"k".toList, "v".toList⟩, .commit "b".toList []]
  exact ⟨rfl, hone.2 (by decide), fun h => absurd (htwo.1 h) (by decide)⟩

/-! ## What a text can lose -/

/-- The line that is written for the entry does not give it back, though a line gave it. -/
inductive Entry.IsLost (o : Options) (e : Entry) : Prop
  | comment (hk : e.key ≠ bareKey) (h : Line.IsComment e.key)
  | tooLong (hk : e.key ≠ bareKey) (h : 4093 < e.key.length + e.value.length)
  | notBare (hk : e.key = bareKey)
      (h : Line.classify e.value ≠ .bare e.value ∨ '\n' ∈ e.value ∨ o.keepBare = false)

/-- A tidy document is restorable if no entry of it is lost. -/
theorem Document.IsTidy.isRestorable_iff (h : d.IsTidy o)
    (hr : ∀ x ∈ d, ∀ e ∈ x.2, '\r' ∉ e.value) :
    d.IsRestorable o ↔ ∀ x ∈ d, ∀ e ∈ x.2, ¬ e.IsLost o := by
  constructor
  · intro hd x hx e he hlost
    cases hlost with
    | comment hk hcomment => exact (hd.keyed x hx e he hk).not_comment hcomment
    | tooLong hk hlong => exact Nat.not_lt.2 (hd.keyed x hx e he hk).length_le hlong
    | notBare hk hno =>
      obtain ⟨hkeep, hline⟩ := hd.bare x hx e he hk
      obtain ⟨hclassify, hwhole⟩ := Text.isBareLine_iff.1 hline
      rcases hno with hno | hno | hno
      · exact hno hclassify
      · exact hwhole.1 hno
      · exact Bool.eq_false_iff.1 hno hkeep
  · intro hlost
    refine ⟨h.heading, h.filled, fun x hx e he hk => ?_, fun x hx e he hk => ?_⟩
    · have hcomment : ¬ Line.IsComment e.key := fun hc => hlost x hx e he (.comment hk hc)
      have hlength : ¬ 4093 < e.key.length + e.value.length :=
        fun hl => hlost x hx e he (.tooLong hk hl)
      exact ⟨h.tidy x hx e he hk, hcomment, Nat.le_of_not_lt hlength⟩
    · have hkeep : o.keepBare = true := by
        by_contra hno
        exact hlost x hx e he (.notBare hk (Or.inr (Or.inr (Bool.eq_false_iff.2 hno))))
      have hclassify : Line.classify e.value = .bare e.value := by
        by_contra hno
        exact hlost x hx e he (.notBare hk (Or.inl hno))
      have hlf : '\n' ∉ e.value := fun hc => hlost x hx e he (.notBare hk (Or.inr (Or.inl hc)))
      exact ⟨hkeep, Text.isBareLine_iff.2 ⟨hclassify, hlf, hr x hx e he⟩⟩

/-- **A text that was read without fault left a tidy document, which comes back from the text that
is written for it exactly if no entry is lost.** -/
theorem parse_isTidy_and_comesBack_iff {editor : Editor} {t : Text}
    (ho : editor.options.prepare? = none) (ht : (editor.parse t).1 = .ok .nothing) :
    (editor.parse t).2.document.IsTidy editor.options ∧
      (((Editor.new editor.options).parse (editor.parse t).2.render).1 = .ok .nothing ∧
        ((Editor.new editor.options).parse (editor.parse t).2.render).2.document =
          (editor.parse t).2.document ↔
        ∀ x ∈ (editor.parse t).2.document, ∀ e ∈ x.2, ¬ e.IsLost editor.options) := by
  have htidy := Parsed.isTidy_ofText editor.options t
  have hnodup := Parsed.nodup_ofText editor.options t
  have hreturns : ∀ x ∈ (Parsed.ofText editor.options t).document, ∀ e ∈ x.2, '\r' ∉ e.value :=
    fun x hx e he => Parsed.cr_not_mem_of_mem_ofText hx he
  rw [Editor.render_parse ht, Editor.document_parse]
  exact ⟨htidy, (Document.comesBack_iff ho hnodup).trans (htidy.isRestorable_iff hreturns)⟩

/-- The blank before a semicolon makes the line an entry, and is not written again. -/
theorem not_comesBack_blank_before_semicolon :
    (Editor.new {}).options.prepare? = none ∧
      ((Editor.new {}).parse "[a]\n ;k = v\n".toList).1 = .ok .nothing ∧
      ¬ (((Editor.new {}).parse
          ((Editor.new {}).parse "[a]\n ;k = v\n".toList).2.render).1 = .ok .nothing ∧
        ((Editor.new {}).parse
          ((Editor.new {}).parse "[a]\n ;k = v\n".toList).2.render).2.document =
            ((Editor.new {}).parse "[a]\n ;k = v\n".toList).2.document) := by
  have hread : ((Editor.new {}).parse "[a]\n ;k = v\n".toList).1 = .ok .nothing := by decide
  have hentry : ("a".toList, [⟨";k".toList, "v".toList⟩]) ∈
      ((Editor.new {}).parse "[a]\n ;k = v\n".toList).2.document := by decide
  have hplain : (Editor.new {}).options.prepare? = none := rfl
  have hiff := (parse_isTidy_and_comesBack_iff hplain hread).2
  refine ⟨hplain, hread, fun hback => ?_⟩
  exact hiff.1 hback _ hentry _ List.mem_cons_self (.comment (by decide) (by decide))

end IniConfig
