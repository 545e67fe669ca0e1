import IniConfig.Command
import IniConfig.Proofs.LineByLine
import IniConfig.Proofs.TwoForms

/-!
# What a refused request leaves

A request is refused before it changes anything, with one exception: a text is read in place of the
content, and a fault in it shows only later. So a refusal that is not the fault of a text leaves the
workspace as it was (`IsAtomic`), and one that is leaves an editor whose content does not count,
with no snapshot (`Editor.IsUnread`).
-/

namespace IniConfig

/-- If the step is refused, no text is at fault, and all is as it was before. -/
def IsAtomic {σ : Type} (before : σ) (step : Reply × σ) : Prop :=
  ∀ fault, step.1 = .error fault → fault.isParseFault = false ∧ step.2 = before

theorem isAtomic_ok {σ : Type} {before after : σ} {answer : Answer} :
    IsAtomic before (.ok answer, after) := nofun

theorem isAtomic_error {σ : Type} {fault : Fault} (h : fault.isParseFault = false) (before : σ) :
    IsAtomic before (.error fault, before) := by
  intro fault' hfault'
  rw [← Except.error.inj hfault']
  exact ⟨h, rfl⟩

/-! ## Changes and looks -/

namespace Document

variable {d : Document} {name key : Text} {fault : Fault}

theorem isParseFault_of_erase (h : d.erase name key = .error fault) :
    fault.isParseFault = false := by
  unfold erase at h
  split at h
  · rw [← Except.error.inj h]; rfl
  · cases h

theorem isParseFault_of_eraseFirst (h : d.eraseFirst name key = .error fault) :
    fault.isParseFault = false := by
  unfold eraseFirst at h
  split at h
  · rw [← Except.error.inj h]; rfl
  · split at h
    · rw [← Except.error.inj h]; rfl
    · cases h

end Document

namespace CachedDocument

variable {c c' : CachedDocument} {name key : Text} {fault : Fault}

theorem isParseFault_of_cache (h : c.cache name = .error fault) : fault.isParseFault = false := by
  unfold cache at h
  split at h
  · rw [← Except.error.inj h]; rfl
  · cases h

theorem isAtomic_look (c : CachedDocument) (l : Look) : IsAtomic c (c.look l) := by
  cases l with
  | fetch name => exact isAtomic_ok
  | observe o => exact isAtomic_ok
  | cache name =>
    simp only [look]
    cases h : c.cache name with
    | error fault => exact isAtomic_error (isParseFault_of_cache h) c
    | ok c' => exact isAtomic_ok

theorem isParseFault_of_apply {change : Edit} (h : change.apply c name = .error fault) :
    fault.isParseFault = false := by
  cases change with
  | add key payload => cases h
  | erase key =>
    simp only [Edit.apply, erase] at h
    cases hd : c.document.erase name key with
    | error fault' =>
      rw [hd] at h
      rw [← Except.error.inj h]
      exact Document.isParseFault_of_erase hd
    | ok r => rw [hd] at h; cases h
  | eraseFirst key =>
    simp only [Edit.apply, eraseFirst] at h
    cases hd : c.document.eraseFirst name key with
    | error fault' =>
      rw [hd] at h
      rw [← Except.error.inj h]
      exact Document.isParseFault_of_eraseFirst hd
    | ok r => rw [hd] at h; cases h

/-- Erasing nothing changes nothing. -/
theorem eq_of_erase_eq_zero (h : c.erase name key = .ok (0, c')) : c' = c := by
  unfold erase at h
  cases hd : c.document.erase name key with
  | error fault => rw [hd] at h; cases h
  | ok r =>
    rw [hd] at h
    obtain ⟨hzero, hc⟩ := Prod.mk.inj (Except.ok.inj h)
    rw [← hc, if_pos hzero]

/-- A section that is missing leaves the snapshot alone. -/
theorem fetch_snd_of_none (h : (c.fetch name).1 = none) : (c.fetch name).2 = c := by
  unfold fetch at h ⊢
  split at h
  · rfl
  · split at h <;> cases h

end CachedDocument

/-! ## Requests to an editor -/

namespace Editor

variable {e : Editor} {t : Text} {fault : Fault}

/-- The content does not count, and no section was looked at since it was read. -/
structure IsUnread (e : Editor) : Prop where
  not_parsed : e.parsed = false
  vacant : e.content.snapshot = .vacant
  readNames_eq : e.readNames = e.document.names

theorem isAtomic_enter (e : Editor) (name : Text) : IsAtomic e (e.enter name) := by
  unfold enter
  cases h : e.content.cache name with
  | error fault => exact isAtomic_error (CachedDocument.isParseFault_of_cache h) e
  | ok c => exact isAtomic_ok

theorem isAtomic_look (e : Editor) (l : Look) : IsAtomic e (e.look l) := by
  intro fault h
  obtain ⟨hfault, hsame⟩ := e.content.isAtomic_look l fault h
  refine ⟨hfault, ?_⟩
  rw [look, hsame]

theorem fetch_snd_of_none {name : Text} (h : (e.fetch name).1 = none) : (e.fetch name).2 = e := by
  unfold fetch at h ⊢
  split
  next hparsed =>
    rw [if_pos hparsed] at h
    rw [CachedDocument.fetch_snd_of_none h]
  · rfl

theorem isAtomic_entries (e : Editor) (a : Address) : IsAtomic e (e.entries a) := by
  cases ha : e.resolve a with
  | none =>
    rw [entries_of_nowhere ha]
    exact isAtomic_error rfl e
  | some name =>
    rw [entries_of_resolve ha]
    split
    · cases hs : (e.fetch name).1 with
      | none =>
        rw [fetch_snd_of_none hs]
        exact isAtomic_error rfl e
      | some s => exact isAtomic_ok
    · exact isAtomic_error rfl e

theorem isAtomic_edit (e : Editor) (a : Address) (change : Edit) : IsAtomic e (e.edit a change) := by
  cases ha : e.resolve a with
  | none =>
    rw [edit_of_nowhere ha]
    exact isAtomic_error rfl e
  | some name =>
    rw [edit_of_resolve ha]
    cases h : change.apply e.content name with
    | error fault => exact isAtomic_error (CachedDocument.isParseFault_of_apply h) e
    | ok r => exact isAtomic_ok

theorem edit_snd_of_count_zero {a : Address} {key : Text}
    (h : (e.edit a (.erase key)).1 = .ok (.count 0)) : (e.edit a (.erase key)).2 = e := by
  cases ha : e.resolve a with
  | none => rw [edit_of_nowhere ha]
  | some name =>
    rw [edit_of_resolve ha] at h ⊢
    simp only [Edit.apply] at h ⊢
    cases hc : e.content.erase name key with
    | error fault => rfl
    | ok r =>
      obtain ⟨n, c⟩ := r
      rw [hc] at h
      obtain rfl : n = 0 := Answer.count.inj (Except.ok.inj h)
      obtain rfl := CachedDocument.eq_of_erase_eq_zero hc
      simp [Except.map, Edit.isAdd]

/-- Only a fault of the text makes a text be refused. -/
theorem isUnread_of_parse_eq_error (h : (e.parse t).1 = .error fault) :
    fault.isParseFault = true ∧ (e.parse t).2.IsUnread := by
  have hfault := parse_fst_eq_error_iff.1 h
  refine ⟨Parsed.isParseFault_of_ofLines hfault, ?_, snapshot_parse e t, readNames_parse e t⟩
  rw [parsed_parse, hfault]
  rfl

end Editor

/-! ## Requests to a workspace -/

/-- Whether a text is to be read in place of the content. -/
def Command.isReading : Command → Bool
  | parse _ | parseBytes _ | parseFile _ => true
  | _ => false

namespace Workspace

variable {w : Workspace} {fault : Fault}

theorem isAtomic_withEditor {step : Reply × Editor} (h : IsAtomic w.editor step) :
    IsAtomic w (w.withEditor step) := by
  intro fault hfault
  obtain ⟨hparse, hsame⟩ := h fault hfault
  refine ⟨hparse, ?_⟩
  rw [withEditor, hsame]

theorem run_of_isReading {c : Command} (hc : c.isReading = true)
    (h : (w.run c).1 = .error fault) :
    fault.isParseFault = false ∧ (w.run c).2 = w ∨
      fault.isParseFault = true ∧ (w.run c).2.editor.IsUnread := by
  cases c with
  | parse t => exact Or.inr (Editor.isUnread_of_parse_eq_error h)
  | parseBytes bs => exact Or.inr (Editor.isUnread_of_parse_eq_error h)
  | parseFile file =>
    simp only [run, parseFile] at h ⊢
    cases hread : w.folder.read file with
    | error cause =>
      rw [hread] at h
      exact Or.inl (isAtomic_error rfl w fault h)
    | ok bs =>
      rw [hread] at h
      exact Or.inr (Editor.isUnread_of_parse_eq_error h)
  | _ => cases hc

theorem isAtomic_run {c : Command} (hc : c.isReading = false) : IsAtomic w (w.run c) := by
  cases c with
  | parse t => cases hc
  | parseBytes bs => cases hc
  | parseFile file => cases hc
  | writeFile file =>
    simp only [run, writeFile]
    cases w.folder.write file w.editor.renderBytes with
    | error cause => exact isAtomic_error rfl w
    | ok folder => exact isAtomic_ok
  | clear => exact isAtomic_ok
  | enter name => exact isAtomic_withEditor (w.editor.isAtomic_enter name)
  | select name => exact isAtomic_ok
  | inspect i => exact isAtomic_ok
  | look l => exact isAtomic_withEditor (w.editor.isAtomic_look l)
  | ask a q => exact isAtomic_ok
  | entries a => exact isAtomic_withEditor (w.editor.isAtomic_entries a)
  | edit a change => exact isAtomic_withEditor (w.editor.isAtomic_edit a change)

/-- **A request that is refused changes nothing, unless it is a text with a fault; and erasing
nothing changes nothing.** -/
theorem run_refused (w : Workspace) (c : Command) :
    (∀ fault, (w.run c).1 = .error fault →
      (fault.isParseFault = false → (w.run c).2 = w) ∧
        (fault.isParseFault = true →
          c.isReading = true ∧ (w.run c).2.editor.IsUnread)) ∧
      ∀ a key, c = .edit a (.erase key) → (w.run c).1 = .ok (.count 0) → (w.run c).2 = w := by
  constructor
  · intro fault h
    cases hc : c.isReading with
    | true =>
      rcases run_of_isReading hc h with ⟨hfault, hsame⟩ | ⟨hfault, hunread⟩
      · exact ⟨fun _ => hsame, fun hyes => nomatch hfault.symm.trans hyes⟩
      · exact ⟨fun hno => (nomatch hfault.symm.trans hno), fun _ => ⟨rfl, hunread⟩⟩
    | false =>
      obtain ⟨hfault, hsame⟩ := isAtomic_run hc fault h
      exact ⟨fun _ => hsame, fun hyes => nomatch hfault.symm.trans hyes⟩
  · rintro a key rfl hzero
    have hsame : (w.editor.edit a (.erase key)).2 = w.editor :=
      Editor.edit_snd_of_count_zero hzero
    rw [run, withEditor, hsame]

/-- A key that is missing cannot be erased once; a text with a fault leaves an editor without a
snapshot, though there was one. -/
theorem run_refused_missing_key_and_fault :
    let w : Workspace := ((({} : Workspace).run (.parse "[a]\nx = 1\n".toList)).2.run
      (.look (.fetch "a".toList))).2
    w.editor.content.snapshot ≠ .vacant ∧
      (w.run (.edit (.named "a".toList) (.eraseFirst "y".toList))).1 =
        .error (.entryNotFound "a".toList "y".toList) ∧
      (w.run (.edit (.named "a".toList) (.eraseFirst "y".toList))).2 = w ∧
      (w.run (.edit (.named "a".toList) (.erase "y".toList))).1 = .ok (.count 0) ∧
      (w.run (.edit (.named "a".toList) (.erase "y".toList))).2 = w ∧
      (w.run (.parse "x = 2".toList)).1 = .error (.entryOutsideSection 1) ∧
      (w.run (.parse "x = 2".toList)).2.editor.IsUnread := by
  intro w
  have hmissing : (w.run (.edit (.named "a".toList) (.eraseFirst "y".toList))).1 =
      .error (.entryNotFound "a".toList "y".toList) := rfl
  have hzero : (w.run (.edit (.named "a".toList) (.erase "y".toList))).1 = .ok (.count 0) := rfl
  have hfault : (w.run (.parse "x = 2".toList)).1 = .error (.entryOutsideSection 1) := rfl
  refine ⟨by decide, hmissing, ?_, hzero, ?_, hfault, ?_⟩
  · exact ((run_refused w _).1 _ hmissing).1 rfl
  · exact (run_refused w _).2 _ _ rfl hzero
  · exact (((run_refused w _).1 _ hfault).2 rfl).2

end Workspace

end IniConfig
