import IniConfig.Plain
import IniConfig.Proofs.TwoForms
import IniConfig.Proofs.Blocks

/-!
# The snapshot does not show

A section is answered from the snapshot if the snapshot holds it, and only a change to that very
section takes the snapshot again. This is sound because a name that the snapshot holds is never
missing from the document: no operation removes a section, and the one that removes them all forgets
the snapshot too. So document and snapshot agree after every operation (`sound_perform`), and each
operation answers and leaves what it does on the document alone (`perform_eq`). An editor that works
in a folder follows request by request (`run_eq`).

The count of removed entries decides whether the snapshot is taken again, and an unchanged section
leaves the document unchanged only if no other section has its name. So the invariant of a run is
that document and snapshot agree and no name is given twice (`Sound`).
-/

namespace IniConfig

namespace CachedDocument

/-- Document and snapshot agree, and no name is given twice. -/
structure Sound (c : CachedDocument) : Prop extends c.Coherent where
  nodup : c.document.names.Nodup

variable {c c' : CachedDocument} {d : Document} {name key : Text} {s : Section} {e : Entry} {n : Nat}

theorem sound_of_vacant (hd : d.names.Nodup) : Sound { document := d } :=
  ⟨coherent_vacant d, hd⟩

theorem sound_empty : Sound empty := sound_of_vacant List.nodup_nil

/-- A snapshot in agreement with its document is told by the name that it holds. -/
theorem Coherent.eq_of (h : c.Coherent) (h' : c'.Coherent)
    (hd : c.document = c'.document) (hn : c.snapshot.name? = c'.snapshot.name?) : c = c' := by
  obtain ⟨d, ⟨name?, content⟩⟩ := c
  obtain ⟨d', ⟨name?', content'⟩⟩ := c'
  obtain rfl : d = d' := hd
  obtain rfl : name? = name?' := hn
  have hcontent : content = content' := by
    cases name? with
    | none => exact (h.blank rfl).trans (h'.blank rfl).symm
    | some name => exact Option.some.inj ((h.held rfl).symm.trans (h'.held rfl))
  rw [hcontent]

/-! ## Changes -/

/-- Other sections than the one in the snapshot may change freely. -/
theorem Coherent.with_document (h : c.Coherent)
    (hd : ∀ held, c.snapshot.name? = some held → d.find? held = c.document.find? held) :
    Coherent { c with document := d } := by
  refine ⟨?_, h.blank⟩
  intro held hheld
  exact (hd held hheld).trans (h.held hheld)

/-- After a change to one section that does not lose it, the snapshot is taken again if it must
be. -/
theorem Coherent.refresh (h : c.Coherent) (hname : c.document.find? name = none ∨ name ∈ d.names)
    (hother : ∀ other, other ≠ name → d.find? other = c.document.find? other) :
    Coherent (refresh { c with document := d } name) := by
  unfold CachedDocument.refresh
  split
  next hnone =>
    have hmissing : c.document.find? name = none :=
      hname.resolve_right (Document.find?_eq_none_iff.1 hnone)
    refine h.with_document fun held hheld => hother held ?_
    rintro rfl
    rw [h.held hheld] at hmissing
    cases hmissing
  next stored hstored =>
    split
    · exact coherent_taken (c := { c with document := d }) hstored
    next hholds =>
      refine h.with_document fun held hheld => hother held ?_
      rintro rfl
      exact hholds (Snapshot.holds_iff.2 hheld)

/-- A section is changed in place, and the snapshot is taken again if it must be. -/
theorem Sound.refresh_modify (h : c.Sound) (name : Text) (change : Section → Section) :
    Sound (refresh { c with document := c.document.modify name change } name) := by
  constructor
  · refine h.toCoherent.refresh ?_ fun other ho => ?_
    · rw [Document.names_modify, Document.find?_eq_none_iff]
      exact (Classical.em (name ∈ c.document.names)).symm
    · rw [Document.find?_modify, if_neg ho]
  · rw [document_refresh, Document.names_modify]
    exact h.nodup

theorem map_document_commit (c : CachedDocument) (name : Text) (s : Section) :
    (c.commit name s).map (·.document) = c.document.commit name s := by
  unfold commit
  cases c.document.commit name s <;> rfl

theorem Sound.commit (h : c.Sound) (hc : c.commit name s = .ok c') : c'.Sound := by
  unfold CachedDocument.commit at hc
  cases hd : c.document.commit name s with
  | error fault => rw [hd] at hc; cases hc
  | ok d =>
    rw [hd] at hc
    obtain rfl := Except.ok.inj hc
    obtain ⟨hnew, rfl⟩ := Document.commit_eq_ok_iff.1 hd
    refine ⟨h.with_document fun held hheld => ?_, Document.nodup_names_concat h.nodup hnew⟩
    rw [Document.find?_append, h.held hheld]
    rfl

theorem document_append (c : CachedDocument) (name : Text) (e : Entry) :
    (c.append name e).document = c.document.append name e := document_refresh _ name

theorem Sound.append (h : c.Sound) (name : Text) (e : Entry) : (c.append name e).Sound := by
  constructor
  · refine h.toCoherent.refresh (Or.inr ?_) fun other ho => ?_
    · rw [← Document.contains_iff_mem_names, Document.contains, Document.find?_append_entry,
        if_pos rfl]
      rfl
    · rw [Document.find?_append_entry, if_neg ho]
  · rw [document_append]
    exact Document.nodup_names_append_entry h.nodup name e

/-- What erasing does to the document, the snapshot taken again or not. -/
theorem Sound.map_document_erase (h : c.Sound) (name key : Text) :
    (c.erase name key).map (fun (n, c) => (n, c.document)) = c.document.erase name key := by
  unfold CachedDocument.erase
  cases hd : c.document.erase name key with
  | error fault => rfl
  | ok r =>
    obtain ⟨n, d⟩ := r
    obtain ⟨s, hs, hn, rfl⟩ := Document.erase_eq_ok_iff.1 hd
    by_cases h0 : n = 0
    · -- nothing was removed, so the document that is kept is the one that erasing gives
      have hsame : s.eraseKey key = s := Section.eraseKey_eq_self (hn.symm.trans h0)
      have hkept : (c.document.modify name fun _ => s.eraseKey key) = c.document :=
        Document.modify_eq_self h.nodup hs hsame
      simp [Except.map, h0, hkept]
    · simp [Except.map, h0]

theorem Sound.erase (h : c.Sound) (hc : c.erase name key = .ok (n, c')) : c'.Sound := by
  unfold CachedDocument.erase at hc
  cases hd : c.document.erase name key with
  | error fault => rw [hd] at hc; cases hc
  | ok r =>
    obtain ⟨m, d⟩ := r
    obtain ⟨s, -, -, rfl⟩ := Document.erase_eq_ok_iff.1 hd
    rw [hd] at hc
    obtain ⟨-, rfl⟩ := Prod.mk.inj (Except.ok.inj hc)
    split
    · exact h
    · exact h.refresh_modify name _

theorem map_document_eraseFirst (c : CachedDocument) (name key : Text) :
    (c.eraseFirst name key).map (fun (e, c) => (e, c.document)) =
      c.document.eraseFirst name key := by
  unfold CachedDocument.eraseFirst
  cases c.document.eraseFirst name key <;> simp [Except.map]

theorem Sound.eraseFirst (h : c.Sound) (hc : c.eraseFirst name key = .ok (e, c')) : c'.Sound := by
  unfold CachedDocument.eraseFirst at hc
  cases hd : c.document.eraseFirst name key with
  | error fault => rw [hd] at hc; cases hc
  | ok r =>
    obtain ⟨first, d⟩ := r
    obtain ⟨s, rest, -, -, rfl⟩ := Document.eraseFirst_eq_ok_iff.1 hd
    rw [hd] at hc
    obtain ⟨-, rfl⟩ := Prod.mk.inj (Except.ok.inj hc)
    exact h.refresh_modify name _

/-! ## Looks -/

theorem Sound.fetch (h : c.Sound) (name : Text) : (c.fetch name).2.Sound := by
  refine ⟨?_, by rw [document_fetch]; exact h.nodup⟩
  unfold CachedDocument.fetch
  split
  · exact h.toCoherent
  next stored hstored =>
    split
    · exact h.toCoherent
    · exact coherent_taken hstored

theorem cache_eq_ok_iff :
    c.cache name = .ok c' ↔
      ∃ s, c.document.find? name = some s ∧ c' = { c with snapshot := .taken name s } := by
  unfold cache
  cases c.document.find? name <;> simp [eq_comm]

theorem cache_eq_error_iff {fault : Fault} :
    c.cache name = .error fault ↔
      c.document.contains name = false ∧ fault = .sectionNotFound name := by
  unfold cache Document.contains
  cases c.document.find? name <;> simp [eq_comm]

theorem contains_of_cache (hc : c.cache name = .ok c') : c.document.contains name = true := by
  obtain ⟨s, hs, -⟩ := cache_eq_ok_iff.1 hc
  rw [Document.contains, hs]
  rfl

theorem document_cache (hc : c.cache name = .ok c') : c'.document = c.document := by
  obtain ⟨s, -, rfl⟩ := cache_eq_ok_iff.1 hc
  rfl

theorem Sound.cache (h : c.Sound) (hc : c.cache name = .ok c') : c'.Sound := by
  obtain ⟨s, hs, rfl⟩ := cache_eq_ok_iff.1 hc
  exact ⟨coherent_taken hs, h.nodup⟩

theorem look_eq (h : c.Sound) (l : Look) :
    ((c.look l).1, (c.look l).2.document) = (c.document.look l, c.document) := by
  cases l with
  | fetch name => simp [look, Document.look, fetch_fst h.toCoherent]
  | observe o => rfl
  | cache name =>
    simp only [look, Document.look]
    cases hc : c.cache name with
    | error fault =>
      obtain ⟨hmissing, rfl⟩ := cache_eq_error_iff.1 hc
      rw [hmissing]
      rfl
    | ok c' =>
      rw [contains_of_cache hc, if_pos rfl, document_cache hc]

theorem Sound.look (h : c.Sound) (l : Look) : (c.look l).2.Sound := by
  cases l with
  | fetch name => exact h.fetch name
  | observe o => exact h
  | cache name =>
    simp only [CachedDocument.look]
    cases hc : c.cache name with
    | error fault => exact h
    | ok c' => exact h.cache hc

/-! ## Runs of operations -/

/-- An operation answers what the document alone answers, and does to the document what is done to
it alone. -/
theorem perform_eq (h : c.Sound) (op : Operation) :
    ((c.perform op).1, (c.perform op).2.document) = c.document.perform op := by
  cases op with
  | clear => rfl
  | commit name s =>
    simp only [perform, Document.perform, ← map_document_commit]
    cases c.commit name s <;> rfl
  | append name e => simp only [perform, Document.perform, document_append]
  | erase name key =>
    simp only [perform, Document.perform, ← h.map_document_erase]
    cases c.erase name key <;> rfl
  | eraseFirst name key =>
    simp only [perform, Document.perform, ← map_document_eraseFirst]
    cases c.eraseFirst name key <;> rfl
  | look l => exact look_eq h l

/-- Every operation keeps document and snapshot in agreement, refused ones included. -/
theorem sound_perform (h : c.Sound) (op : Operation) : (c.perform op).2.Sound := by
  cases op with
  | clear => exact sound_empty
  | commit name s =>
    simp only [perform]
    cases hc : c.commit name s with
    | error fault => exact h
    | ok c' => exact h.commit hc
  | append name e => exact h.append name e
  | erase name key =>
    simp only [perform]
    cases hc : c.erase name key with
    | error fault => exact h
    | ok r => exact h.erase hc
  | eraseFirst name key =>
    simp only [perform]
    cases hc : c.eraseFirst name key with
    | error fault => exact h
    | ok r => exact h.eraseFirst hc
  | look l => exact h.look l

theorem sound_performAll (h : c.Sound) (ops : List Operation) : (c.performAll ops).2.Sound := by
  induction ops generalizing c with
  | nil => exact h
  | cons op ops ih => exact ih (sound_perform h op)

theorem performAll_eq (h : c.Sound) (ops : List Operation) :
    ((c.performAll ops).1, (c.performAll ops).2.document) = c.document.performAll ops := by
  induction ops generalizing c with
  | nil => rfl
  | cons op ops ih =>
    have hrest := ih (sound_perform h op)
    simp only [performAll, Document.performAll, ← perform_eq h op, ← hrest]

/-! ## Documents that can be built -/

/-- Sections that are committed one after the other come behind those that are there. -/
theorem performAll_commits (d₀ : Document) (hd : (d₀ ++ d).names.Nodup) :
    (performAll { document := d₀ } (d.map fun (name, s) => .commit name s)).2 =
      { document := d₀ ++ d } := by
  induction d generalizing d₀ with
  | nil => rw [List.append_nil]; rfl
  | cons x d ih =>
    obtain ⟨name, s⟩ := x
    have hname : name ∉ d₀.names := by
      intro hm
      rw [Document.names_append] at hd
      exact (List.nodup_append.1 hd).2.2 name hm name List.mem_cons_self rfl
    have hcommit : d₀.commit name s = .ok (d₀ ++ [(name, s)]) :=
      Document.commit_eq_ok_iff.2 ⟨hname, rfl⟩
    have hfirst : (perform { document := d₀ } (.commit name s)).2 =
        { document := d₀ ++ [(name, s)] } := by
      simp [perform, commit, hcommit, Except.map]
    have hrest := ih (d₀ ++ [(name, s)]) (by simpa using hd)
    rw [List.append_assoc] at hrest
    rw [List.map_cons, performAll]
    simp only [hfirst]
    exact hrest

/-- A document can be built exactly if no name is given twice. -/
theorem exists_performAll_iff :
    (∃ ops, (empty.performAll ops).2.document = d) ↔ d.names.Nodup := by
  constructor
  · rintro ⟨ops, rfl⟩
    exact (sound_performAll sound_empty ops).nodup
  · intro hd
    exact ⟨_, congrArg document (performAll_commits [] hd)⟩

end CachedDocument

/-! ## Editors in a folder -/

namespace Editor

variable {e : Editor} {name : Text}

theorem fetch_eq (h : e.content.Sound) (name : Text) :
    (e.fetch name).1 = if e.parsed then e.document.find? name else none := by
  unfold fetch
  split
  · exact CachedDocument.fetch_fst h.toCoherent name
  · rfl

/-- Looking a section up changes at most the snapshot. -/
theorem exists_fetch_snd (h : e.content.Sound) (name : Text) :
    ∃ c : CachedDocument, (e.fetch name).2 = { e with content := c } ∧
      c.document = e.document ∧ c.Sound := by
  unfold fetch
  split
  · exact ⟨(e.content.fetch name).2, rfl, CachedDocument.document_fetch _ name, h.fetch name⟩
  · exact ⟨e.content, rfl, rfl, h⟩

/-- A text is read as if its sections were committed one after the other into an empty document. -/
theorem content_parse (e : Editor) (t : Text) :
    (e.parse t).2.content =
      (CachedDocument.empty.performAll
        ((Parsed.ofText e.options t).document.map fun (name, s) => .commit name s)).2 := by
  rw [parse_eq]
  exact (CachedDocument.performAll_commits [] (Parsed.nodup_ofText e.options t)).symm

theorem sound_parse (e : Editor) (t : Text) : (e.parse t).2.content.Sound := by
  rw [content_parse]
  exact CachedDocument.sound_performAll CachedDocument.sound_empty _

theorem sound_edit (h : e.content.Sound) (a : Address) (change : Edit) :
    (e.edit a change).2.content.Sound := by
  cases ha : e.resolve a with
  | none => rwa [edit_of_nowhere ha]
  | some name =>
    rw [edit_of_resolve ha]
    cases change with
    | add key payload => exact h.append name _
    | erase key =>
      simp only [Edit.apply]
      cases hc : e.content.erase name key with
      | error fault => exact h
      | ok r => exact h.erase hc
    | eraseFirst key =>
      simp only [Edit.apply]
      cases hc : e.content.eraseFirst name key with
      | error fault => exact h
      | ok r => exact h.eraseFirst hc

theorem sound_enter (h : e.content.Sound) (name : Text) : (e.enter name).2.content.Sound := by
  unfold enter
  cases hc : e.content.cache name with
  | error fault => exact h
  | ok c => exact h.cache hc

theorem sound_fetch (h : e.content.Sound) (name : Text) : (e.fetch name).2.content.Sound := by
  obtain ⟨c, hc, -, hsound⟩ := exists_fetch_snd h name
  rwa [hc]

theorem sound_ask (h : e.content.Sound) (a : Address) (q : Query) :
    (e.ask a q).2.content.Sound := by
  cases ha : e.resolve a with
  | none => rwa [ask_of_nowhere ha]
  | some name =>
    rw [ask_of_resolve ha]
    exact sound_fetch h name

theorem sound_entries (h : e.content.Sound) (a : Address) : (e.entries a).2.content.Sound := by
  cases ha : e.resolve a with
  | none => rwa [entries_of_nowhere ha]
  | some name =>
    rw [entries_of_resolve ha]
    split
    · exact sound_fetch h name
    · exact h

end Editor

namespace Workspace

variable {w : Workspace}

theorem sound_run (h : w.editor.content.Sound) (command : Command) :
    (w.run command).2.editor.content.Sound := by
  cases command with
  | parse t => exact w.editor.sound_parse t
  | parseBytes bs => exact w.editor.sound_parse _
  | parseFile file =>
    simp only [run, parseFile]
    cases w.folder.read file with
    | error cause => exact h
    | ok bs => exact w.editor.sound_parse _
  | writeFile file =>
    simp only [run, writeFile]
    cases w.folder.write file w.editor.renderBytes <;> exact h
  | clear => exact CachedDocument.sound_empty
  | enter name => exact Editor.sound_enter h name
  | select name => exact h
  | inspect i => exact h
  | look l => exact h.look l
  | ask a q => exact Editor.sound_ask h a q
  | entries a => exact Editor.sound_entries h a
  | edit a change => exact Editor.sound_edit h a change

/-- Only the snapshot sets two workspaces apart that are the same without it. -/
theorem ofWorkspace_content {c : CachedDocument} (hc : c.document = w.editor.document) :
    Plain.ofWorkspace { w with editor := { w.editor with content := c } } =
      Plain.ofWorkspace w := by
  simp only [Plain.ofWorkspace, Editor.document] at hc ⊢
  rw [hc]

theorem parse_eq (w : Workspace) (t : Text) :
    ((w.withEditor (w.editor.parse t)).1,
        Plain.ofWorkspace (w.withEditor (w.editor.parse t)).2) =
      (Plain.ofWorkspace w).parse t := by
  simp only [Plain.parse, Editor.parse, Plain.options_ofWorkspace]
  cases (Parsed.ofText w.editor.options t).fault? <;> rfl

theorem enter_eq (w : Workspace) (name : Text) :
    ((w.run (.enter name)).1, Plain.ofWorkspace (w.run (.enter name)).2) =
      (Plain.ofWorkspace w).run (.enter name) := by
  simp only [run, Plain.run, Editor.enter]
  cases hc : w.editor.content.cache name with
  | error fault =>
    obtain ⟨hmissing, rfl⟩ := CachedDocument.cache_eq_error_iff.1 hc
    have hmissing : ¬ (Plain.ofWorkspace w).document.contains name := Bool.eq_false_iff.1 hmissing
    rw [if_neg hmissing]
    rfl
  | ok c =>
    have hthere : (Plain.ofWorkspace w).document.contains name :=
      CachedDocument.contains_of_cache hc
    rw [if_pos hthere]
    exact congrArg (Prod.mk _) (congrArg (fun p : Plain => { p with pointer? := some name })
      (ofWorkspace_content (CachedDocument.document_cache hc)))

theorem ask_eq (h : w.editor.content.Sound) (a : Address) (q : Query) :
    ((w.run (.ask a q)).1, Plain.ofWorkspace (w.run (.ask a q)).2) =
      (Plain.ofWorkspace w).run (.ask a q) := by
  simp only [run, Plain.run, Plain.resolve_ofWorkspace, withEditor]
  cases ha : w.editor.resolve a with
  | none => rw [Editor.ask_of_nowhere ha]
  | some name =>
    obtain ⟨c, hc, hdocument, -⟩ := Editor.exists_fetch_snd h name
    have hfind : (w.editor.fetch name).1 = (Plain.ofWorkspace w).find? name :=
      Editor.fetch_eq h name
    simp only [Editor.ask_of_resolve ha, hc, hfind, ofWorkspace_content hdocument]

theorem entries_eq (h : w.editor.content.Sound) (a : Address) :
    ((w.run (.entries a)).1, Plain.ofWorkspace (w.run (.entries a)).2) =
      (Plain.ofWorkspace w).run (.entries a) := by
  have hparsed : (Plain.ofWorkspace w).parsed = w.editor.parsed := rfl
  simp only [run, Plain.run, Plain.resolve_ofWorkspace, hparsed, withEditor]
  cases ha : w.editor.resolve a with
  | none => rw [Editor.entries_of_nowhere ha]
  | some name =>
    rw [Editor.entries_of_resolve ha]
    dsimp only
    split
    next hp =>
      obtain ⟨c, hc, hdocument, -⟩ := Editor.exists_fetch_snd h name
      have hfind := Editor.fetch_eq h name
      rw [if_pos hp] at hfind
      simp only [hc, hfind, ofWorkspace_content hdocument]
      rfl
    · rfl

theorem edit_eq (h : w.editor.content.Sound) (a : Address) (change : Edit) :
    ((w.run (.edit a change)).1, Plain.ofWorkspace (w.run (.edit a change)).2) =
      (Plain.ofWorkspace w).run (.edit a change) := by
  simp only [run, Plain.run, Plain.resolve_ofWorkspace, withEditor]
  cases ha : w.editor.resolve a with
  | none => rw [Editor.edit_of_nowhere ha]
  | some name =>
    rw [Editor.edit_of_resolve ha]
    cases change with
    | add key payload =>
      simp [Edit.apply, Edit.isAdd, Plain.edit, Plain.ofWorkspace, Editor.document,
        CachedDocument.document_append]
    | erase key =>
      simp only [Edit.apply, Plain.edit, Plain.document_ofWorkspace, ← h.map_document_erase]
      cases w.editor.content.erase name key with
      | error fault => rfl
      | ok r => simp [Except.map, Edit.isAdd, Plain.ofWorkspace, Editor.document]
    | eraseFirst key =>
      simp only [Edit.apply, Plain.edit, Plain.document_ofWorkspace,
        ← CachedDocument.map_document_eraseFirst]
      cases w.editor.content.eraseFirst name key with
      | error fault => rfl
      | ok r => simp [Except.map, Edit.isAdd, Plain.ofWorkspace, Editor.document]

theorem look_eq (h : w.editor.content.Sound) (l : Look) :
    ((w.run (.look l)).1, Plain.ofWorkspace (w.run (.look l)).2) =
      (Plain.ofWorkspace w).run (.look l) := by
  obtain ⟨hreply, hdocument⟩ := Prod.mk.inj (CachedDocument.look_eq h l)
  simp only [run, Plain.run, Editor.look, withEditor, hreply, ofWorkspace_content hdocument]
  rfl

/-- A request is answered as without a snapshot, and leaves behind what it leaves without one. -/
theorem run_eq (h : w.editor.content.Sound) (command : Command) :
    ((w.run command).1, Plain.ofWorkspace (w.run command).2) =
      (Plain.ofWorkspace w).run command := by
  cases command with
  | parse t => exact parse_eq w t
  | parseBytes bs => exact parse_eq w _
  | parseFile file =>
    simp only [run, parseFile, Plain.run, Plain.folder_ofWorkspace]
    cases w.folder.read file with
    | error cause => rfl
    | ok bs => exact parse_eq w _
  | writeFile file =>
    have hbytes : (Plain.ofWorkspace w).charset.encode (Plain.ofWorkspace w).render =
        w.editor.renderBytes := rfl
    simp only [run, writeFile, Plain.run, Plain.folder_ofWorkspace, hbytes]
    cases w.folder.write file w.editor.renderBytes <;> rfl
  | clear => rfl
  | enter name => exact enter_eq w name
  | select name => rfl
  | inspect i => cases i <;> rfl
  | look l => exact look_eq h l
  | ask a q => exact ask_eq h a q
  | entries a => exact entries_eq h a
  | edit a change => exact edit_eq h a change

theorem sound_runAll (h : w.editor.content.Sound) (commands : List Command) :
    (w.runAll commands).2.editor.content.Sound := by
  induction commands generalizing w with
  | nil => exact h
  | cons command commands ih => exact ih (sound_run h command)

theorem runAll_eq (h : w.editor.content.Sound) (commands : List Command) :
    ((w.runAll commands).1, Plain.ofWorkspace (w.runAll commands).2) =
      (Plain.ofWorkspace w).runAll commands := by
  induction commands generalizing w with
  | nil => rfl
  | cons command commands ih =>
    have hrest := ih (sound_run h command)
    simp only [runAll, Plain.runAll, ← run_eq h command, ← hrest]

end Workspace

/-- **The snapshot does not show.** Whatever is done with a new document, and whatever is asked of a
new editor, the replies and what is stored are those of the document without a snapshot; and
document and snapshot agree. -/
theorem snapshot_invisible :
    (∀ ops : List Operation,
      ((CachedDocument.empty.performAll ops).1,
          (CachedDocument.empty.performAll ops).2.document) = Document.performAll [] ops ∧
        (CachedDocument.empty.performAll ops).2.Coherent) ∧
    ∀ (o : Options) (f : Folder) (commands : List Command),
      (((Workspace.new o f).runAll commands).1,
          Plain.ofWorkspace ((Workspace.new o f).runAll commands).2) =
        (Plain.new o f).runAll commands ∧
        ((Workspace.new o f).runAll commands).2.editor.content.Coherent := by
  constructor
  · intro ops
    exact ⟨CachedDocument.performAll_eq CachedDocument.sound_empty ops,
      (CachedDocument.sound_performAll CachedDocument.sound_empty ops).toCoherent⟩
  · intro o f commands
    have hnew : (Workspace.new o f).editor.content.Sound := CachedDocument.sound_empty
    exact ⟨Workspace.runAll_eq hnew commands, (Workspace.sound_runAll hnew commands).toCoherent⟩

end IniConfig
