import IniConfig.Proofs.CurrentSection
import Mathlib.Data.List.Basic

/-!
# Changes in either order

Changes to different sections, and changes under different keys of one section, get the same replies
and lead to the same result in either order (`Workspace.eitherOrder_run_edit`), as long as the order
does not show in the result: two entries that are both added at the end of one section, or that both
begin a section, stand in the order in which they came.

A change to a section that is there is a function of that section alone (`Edit.changed`), and its
reply depends only on how many entries have the key (`Edit.reply_congr`). So it is enough that such
functions commute under different keys (`Edit.changed_comm`). The snapshot follows from the document
and the name that it holds (`CachedDocument.Coherent.eq_of`).
-/

namespace IniConfig

/-- Either order of the two steps gives each of them its reply and leads to the same state. -/
structure EitherOrder {σ : Type} (f g : σ → Reply × σ) (s : σ) : Prop where
  first : (f (g s).2).1 = (f s).1
  second : (g (f s).2).1 = (g s).1
  state : (g (f s).2).2 = (f (g s).2).2

/-! ## One section -/

namespace Section

variable {key k : Text}

theorem countKey_eraseKey_of_ne (h : key ≠ k) (s : Section) :
    (s.eraseKey key).countKey k = s.countKey k := by
  rw [countKey, eraseKey, List.countP_filter]
  refine List.countP_congr fun e _ => ?_
  by_cases he : e.key = k <;> simp [he, h.symm]

theorem countKey_eraseP_of_ne (h : key ≠ k) (s : Section) :
    countKey (s.eraseP (·.key = key)) k = s.countKey k := by
  unfold countKey
  induction s with
  | nil => rfl
  | cons e s ih =>
    by_cases he : e.key = key
    · have hne : e.key ≠ k := he ▸ h
      rw [List.eraseP_cons_of_pos (by simpa using he), List.countP_cons_of_neg (by simpa using hne)]
    · rw [List.eraseP_cons_of_neg (by simpa using he), List.countP_cons, List.countP_cons, ih]

end Section

namespace Edit

/-- The key under which entries are added or removed. -/
def key : Edit → Text
  | add key _ | erase key | eraseFirst key => key

/-- The section after the change. -/
def changed : Edit → Section → Section
  | add key payload, s => s ++ [⟨key, payload.write⟩]
  | erase key, s => s.eraseKey key
  | eraseFirst key, s => s.eraseP (·.key = key)

/-- The reply to the change in a section of this name. -/
def reply (name : Text) : Edit → Section → Reply
  | add _ _, _ => .ok .nothing
  | erase key, s => .ok (.count (s.countKey key))
  | eraseFirst key, s =>
    if s.hasKey key then .ok .nothing else .error (.entryNotFound name key)

variable {change change' : Edit} {s s' : Section} {k name : Text}

theorem reply_congr (h : s.countKey change.key = s'.countKey change.key) :
    change.reply name s = change.reply name s' := by
  cases change with
  | add key payload => rfl
  | erase key =>
    have hcount : s.countKey key = s'.countKey key := h
    rw [reply, reply, hcount]
  | eraseFirst key =>
    have hcount : s.countKey key = s'.countKey key := h
    have hmiss : s.hasKey key = false ↔ s'.hasKey key = false := by
      rw [← Section.countKey_eq_zero_iff, ← Section.countKey_eq_zero_iff, hcount]
    have hkey : s.hasKey key = s'.hasKey key := by
      rw [Bool.eq_iff_iff]
      simpa using not_congr hmiss
    rw [reply, reply, hkey]

/-- A change under one key leaves the entries of the others. -/
theorem countKey_changed (h : change.key ≠ k) (s : Section) :
    (change.changed s).countKey k = s.countKey k := by
  cases change with
  | add key payload =>
    have hk : key ≠ k := h
    simp [changed, Section.countKey, hk]
  | erase key => exact Section.countKey_eraseKey_of_ne h s
  | eraseFirst key => exact Section.countKey_eraseP_of_ne h s

theorem changed_erase_add {key : Text} (h : k ≠ key) (payload : Payload) (s : Section) :
    (erase key).changed ((add k payload).changed s) =
      (add k payload).changed ((erase key).changed s) := by
  simp [changed, Section.eraseKey, h]

theorem changed_eraseFirst_add {key : Text} (h : k ≠ key) (payload : Payload) (s : Section) :
    (eraseFirst key).changed ((add k payload).changed s) =
      (add k payload).changed ((eraseFirst key).changed s) := by
  simp only [changed]
  rw [List.eraseP_append]
  split
  next => rfl
  next hany =>
    have hnone : ∀ e ∈ s, ¬ (decide (e.key = key)) = true := by simpa using hany
    rw [List.eraseP_of_forall_not hnone, List.eraseP_cons_of_neg (by simpa using h),
      List.eraseP_nil]

theorem changed_eraseFirst_erase {key : Text} (h : k ≠ key) (s : Section) :
    (eraseFirst key).changed ((erase k).changed s) =
      (erase k).changed ((eraseFirst key).changed s) := by
  simp only [changed, Section.eraseKey]
  rw [List.eraseP_filter]
  have hboth : (fun e : Entry => decide (e.key = key) && decide (e.key ≠ k)) =
      fun e => decide (e.key = key) := by
    funext e
    by_cases he : e.key = key <;> simp [he, h.symm]
  rw [hboth]

/-- Changes under different keys commute, unless both add at the end. -/
theorem changed_comm (hk : change.key ≠ change'.key) (ha : ¬ (change.isAdd ∧ change'.isAdd))
    (s : Section) : change'.changed (change.changed s) = change.changed (change'.changed s) := by
  cases change with
  | add k payload =>
    cases change' with
    | add k' payload' => exact absurd ⟨rfl, rfl⟩ ha
    | erase k' => exact changed_erase_add hk payload s
    | eraseFirst k' => exact changed_eraseFirst_add hk payload s
  | erase k =>
    cases change' with
    | add k' payload => exact (changed_erase_add hk.symm payload s).symm
    | erase k' => exact List.filter_comm _ _ s
    | eraseFirst k' => exact changed_eraseFirst_erase hk s
  | eraseFirst k =>
    cases change' with
    | add k' payload => exact (changed_eraseFirst_add hk.symm payload s).symm
    | erase k' => exact (changed_eraseFirst_erase hk.symm s).symm
    | eraseFirst k' =>
      have hne : k ≠ k' := hk
      refine List.eraseP_comm fun e _ => ?_
      by_cases he : e.key = k
      · exact Or.inr (by simpa [he] using hne)
      · exact Or.inl (by simpa using he)

end Edit

/-! ## The sections of a document -/

namespace Document

variable {d d' : Document} {name name' other : Text} {change change' : Edit} {s : Section}

/-- The section that an added entry begins, as the last one of a document that lacks it. -/
def begun (name : Text) (change : Edit) : Document :=
  if change.isAdd then [(name, change.changed [])] else []

/-- The reply to the change in the section of this name, and the document after it. -/
def edit (d : Document) (name : Text) (change : Edit) : Reply × Document :=
  match d.find? name with
  | some s => (change.reply name s, d.modify name change.changed)
  | none =>
    (if change.isAdd then .ok .nothing else .error (.sectionNotFound name),
      d ++ begun name change)

/-- An added entry begins a section. -/
def Begins (d : Document) (name : Text) (change : Edit) : Prop :=
  change.isAdd = true ∧ name ∉ d.names

/-- The changes have nothing to do with each other. -/
inductive Apart (d : Document) (name : Text) (change : Edit) (name' : Text) (change' : Edit) : Prop
  | sections (hn : name ≠ name') (hb : ¬ (d.Begins name change ∧ d.Begins name' change'))
  | keys (hn : name = name') (hd : name ∈ d.names) (hk : change.key ≠ change'.key)
      (ha : ¬ (change.isAdd ∧ change'.isAdd))

theorem edit_of_some (h : d.find? name = some s) (change : Edit) :
    d.edit name change = (change.reply name s, d.modify name change.changed) := by
  rw [edit, h]

theorem edit_of_none (h : d.find? name = none) (change : Edit) :
    d.edit name change =
      (if change.isAdd then .ok .nothing else .error (.sectionNotFound name),
        d ++ begun name change) := by
  rw [edit, h]

theorem fst_edit_congr (h : d.find? name = d'.find? name) (change : Edit) :
    (d.edit name change).1 = (d'.edit name change).1 := by
  unfold edit
  rw [h]
  cases d'.find? name <;> rfl

theorem modify_comm (h : name ≠ name') (d : Document) (f g : Section → Section) :
    (d.modify name f).modify name' g = (d.modify name' g).modify name f := by
  simp only [modify, List.map_map]
  refine List.map_congr_left fun p _ => ?_
  by_cases hp : p.1 = name
  · simp [hp, h]
  · by_cases hp' : p.1 = name' <;> simp [hp, hp', h.symm]

theorem modify_append (d d' : Document) (name : Text) (f : Section → Section) :
    modify (d ++ d') name f = d.modify name f ++ d'.modify name f := List.map_append

theorem not_mem_names_begun (h : other ≠ name) (change : Edit) :
    other ∉ (begun name change).names := by
  unfold begun
  cases change.isAdd <;> simp [h]

/-- A change to one section leaves the others. -/
theorem find?_edit_of_ne (h : other ≠ name) (d : Document) (change : Edit) :
    (d.edit name change).2.find? other = d.find? other := by
  cases hs : d.find? name with
  | some s => rw [edit_of_some hs, find?_modify, if_neg h]
  | none =>
    rw [edit_of_none hs, find?_append, find?_eq_none_iff.2 (not_mem_names_begun h change),
      Option.or_none]

/-- A section that is there is changed in its place, whatever is begun behind it. -/
theorem snd_edit_comm_of_some (hn : name ≠ name') (hs : d.find? name = some s) :
    ((d.edit name change).2.edit name' change').2 =
      ((d.edit name' change').2.edit name change).2 := by
  have hs' : (d.edit name' change').2.find? name = some s := by
    rw [find?_edit_of_ne hn, hs]
  rw [edit_of_some hs, edit_of_some hs']
  cases ht : d.find? name' with
  | some t =>
    have ht' : (d.modify name change.changed).find? name' = some t := by
      rw [find?_modify, if_neg hn.symm, ht]
    rw [edit_of_some ht, edit_of_some ht']
    exact modify_comm hn d _ _
  | none =>
    have ht' : (d.modify name change.changed).find? name' = none := by
      rw [find?_modify, if_neg hn.symm, ht]
    rw [edit_of_none ht, edit_of_none ht']
    dsimp only
    rw [modify_append, modify_eq_self_of_not_mem (not_mem_names_begun hn change')]

theorem snd_edit_comm_of_ne (hn : name ≠ name')
    (hb : ¬ (d.Begins name change ∧ d.Begins name' change')) :
    ((d.edit name change).2.edit name' change').2 =
      ((d.edit name' change').2.edit name change).2 := by
  cases hs : d.find? name with
  | some s => exact snd_edit_comm_of_some hn hs
  | none =>
    cases ht : d.find? name' with
    | some t => exact (snd_edit_comm_of_some hn.symm ht).symm
    | none =>
      -- both are missing, and one of the changes begins nothing
      have hs' : (d ++ begun name' change').find? name = none := by
        have hfind := find?_edit_of_ne hn d change'
        rwa [edit_of_none ht, hs] at hfind
      have ht' : (d ++ begun name change).find? name' = none := by
        have hfind := find?_edit_of_ne hn.symm d change
        rwa [edit_of_none hs, ht] at hfind
      have hnone : begun name change = [] ∨ begun name' change' = [] := by
        unfold begun
        by_cases ha : change.isAdd = true
        · have ha' : ¬ change'.isAdd = true := fun ha' =>
            hb ⟨⟨ha, find?_eq_none_iff.1 hs⟩, ⟨ha', find?_eq_none_iff.1 ht⟩⟩
          exact Or.inr (if_neg ha')
        · exact Or.inl (if_neg ha)
      rw [edit_of_none hs, edit_of_none ht, edit_of_none hs', edit_of_none ht']
      rcases hnone with h | h <;> simp [h]

theorem eitherOrder_edit (h : d.Apart name change name' change') :
    EitherOrder (·.edit name change) (·.edit name' change') d := by
  cases h with
  | sections hn hb =>
    constructor
    case first => exact fst_edit_congr (find?_edit_of_ne hn d change') change
    case second => exact fst_edit_congr (find?_edit_of_ne hn.symm d change) change'
    case state => exact snd_edit_comm_of_ne hn hb
  | keys hn hd hk ha =>
    subst hn
    obtain ⟨s, hs⟩ := Option.isSome_iff_exists.1 (contains_iff_mem_names.2 hd)
    have hafter (m : Edit) : (d.modify name m.changed).find? name = some (m.changed s) := by
      rw [find?_modify_self, hs]
      rfl
    constructor
    case first =>
      simp only [edit_of_some hs, edit_of_some (hafter change')]
      exact Edit.reply_congr (Edit.countKey_changed hk.symm s)
    case second =>
      simp only [edit_of_some hs, edit_of_some (hafter change)]
      exact Edit.reply_congr (Edit.countKey_changed hk s)
    case state =>
      simp only [edit_of_some hs, edit_of_some (hafter change), edit_of_some (hafter change'),
        modify_modify]
      exact congrArg (d.modify name) (funext (Edit.changed_comm hk ha))

end Document

/-! ## The content and the rest of a workspace -/

namespace Plain

variable {p : Plain} {name : Text} {s : Section}

theorem edit_of_missing (hs : p.document.find? name = none) (change : Edit) :
    p.edit name change =
      ((p.document.edit name change).1,
        { p with document := (p.document.edit name change).2,
                 parsed := p.parsed || change.isAdd }) := by
  have hc : p.document.contains name = false := by rw [Document.contains, hs]; rfl
  rw [Document.edit_of_none hs]
  cases change with
  | add key payload => simp [edit, Document.append, hc, Document.begun, Edit.isAdd, Edit.changed]
  | erase key => simp [edit, Document.erase, hs, Document.begun, Edit.isAdd]
  | eraseFirst key => simp [edit, Document.eraseFirst, hs, Document.begun, Edit.isAdd]

theorem edit_eraseFirst_of_stored (hd : p.document.names.Nodup)
    (hs : p.document.find? name = some s) (key : Text) :
    p.edit name (.eraseFirst key) =
      ((Edit.eraseFirst key).reply name s,
        { p with document := p.document.modify name (Edit.eraseFirst key).changed }) := by
  cases hk : s.eraseFirst? key with
  | none =>
    have hmiss := Section.eraseFirst?_eq_none_iff.1 hk
    have hsame : (Edit.eraseFirst key).changed s = s :=
      List.eraseP_of_forall_not (by simpa [Section.hasKey] using hmiss)
    simp [edit, Document.eraseFirst, hs, hk, Edit.reply, hmiss,
      Document.modify_eq_self hd hs hsame]
  | some r =>
    obtain ⟨e, -, rfl⟩ := Option.map_eq_some_iff.1 hk
    have hkey : s.hasKey key = true := by
      rw [← Bool.not_eq_false, ← Section.eraseFirst?_eq_none_iff, hk]
      exact Option.some_ne_none _
    have hrest : (p.document.modify name fun _ => s.eraseP (·.key = key)) =
        p.document.modify name (Edit.eraseFirst key).changed := Document.modify_congr hd hs rfl
    simp [edit, Document.eraseFirst, hs, hk, hrest, Edit.reply, hkey]

theorem edit_eq (p : Plain) (hd : p.document.names.Nodup) (name : Text) (change : Edit) :
    p.edit name change =
      ((p.document.edit name change).1,
        { p with document := (p.document.edit name change).2,
                 parsed := p.parsed || change.isAdd }) := by
  cases hs : p.document.find? name with
  | none => exact edit_of_missing hs change
  | some s =>
    rw [Document.edit_of_some hs]
    cases change with
    | add key payload =>
      have hc : p.document.contains name = true := by rw [Document.contains, hs]; rfl
      have happend : p.document.append name ⟨key, payload.write⟩ =
          p.document.modify name (Edit.add key payload).changed := if_pos hc
      simp [edit, happend, Edit.isAdd, Edit.reply]
    | erase key =>
      have herase : (p.document.modify name fun _ => s.eraseKey key) =
          p.document.modify name (Edit.erase key).changed := Document.modify_congr hd hs rfl
      simp [edit, Document.erase, hs, herase, Edit.isAdd, Edit.reply]
    | eraseFirst key =>
      have hnot : (Edit.eraseFirst key).isAdd = false := rfl
      rw [edit_eraseFirst_of_stored hd hs, hnot, Bool.or_false]

end Plain

namespace Workspace

variable {w w' : Workspace} {a b : Address} {name name' : Text} {change change' : Edit}

/-- A workspace is told by what is left of it without the snapshot and the name that the snapshot
holds. -/
theorem eq_of_ofWorkspace (h : w.editor.content.Sound) (h' : w'.editor.content.Sound)
    (hp : Plain.ofWorkspace w = Plain.ofWorkspace w') (hn : w.editor.held? = w'.editor.held?) :
    w = w' := by
  obtain ⟨⟨o, c, parsed, pointer?, readNames⟩, f⟩ := w
  obtain ⟨⟨o', c', parsed', pointer?', readNames'⟩, f'⟩ := w'
  simp only [Plain.ofWorkspace, Plain.mk.injEq, Editor.document] at hp
  obtain ⟨rfl, hd, rfl, rfl, rfl, rfl⟩ := hp
  obtain rfl : c = c' := h.toCoherent.eq_of h'.toCoherent hd hn
  rfl

theorem resolve_run_edit (w : Workspace) (b : Address) (change : Edit) :
    (w.run (.edit b change)).2.editor.resolve a = w.editor.resolve a := by
  cases a with
  | named name => rfl
  | current => exact congrArg (Option.filter _) (w.editor.pointer?_edit b change)

theorem held?_run_edit (w : Workspace) (a : Address) (change : Edit) :
    (w.run (.edit a change)).2.editor.held? = w.editor.held? :=
  Step.IsAside.held?_eq (s := ⟨w, .edit a change⟩) (.edit rfl)

theorem run_edit_eq (h : w.editor.content.Sound) (ha : w.editor.resolve a = some name)
    (change : Edit) :
    ((w.run (.edit a change)).1, Plain.ofWorkspace (w.run (.edit a change)).2) =
      ((w.editor.document.edit name change).1,
        { Plain.ofWorkspace w with
          document := (w.editor.document.edit name change).2,
          parsed := w.editor.parsed || change.isAdd }) := by
  rw [edit_eq h, Plain.run, Plain.resolve_ofWorkspace, ha]
  exact (Plain.ofWorkspace w).edit_eq h.nodup name change

theorem run_edit_run_edit_eq (h : w.editor.content.Sound) (ha : w.editor.resolve a = some name)
    (hb : w.editor.resolve b = some name') (change change' : Edit) :
    (((w.run (.edit b change')).2.run (.edit a change)).1,
        Plain.ofWorkspace ((w.run (.edit b change')).2.run (.edit a change)).2) =
      (((w.editor.document.edit name' change').2.edit name change).1,
        { Plain.ofWorkspace w with
          document := ((w.editor.document.edit name' change').2.edit name change).2,
          parsed := w.editor.parsed || change'.isAdd || change.isAdd }) := by
  have hplain := (Prod.mk.inj (run_edit_eq h hb change')).2
  have hd : (w.run (.edit b change')).2.editor.document =
      (w.editor.document.edit name' change').2 := congrArg Plain.document hplain
  have hparsed : (w.run (.edit b change')).2.editor.parsed =
      (w.editor.parsed || change'.isAdd) := congrArg Plain.parsed hplain
  rw [run_edit_eq (sound_run h _) (by rw [resolve_run_edit, ha]), hplain, hd, hparsed]

theorem eitherOrder_of_apart (h : w.editor.content.Sound) (ha : w.editor.resolve a = some name)
    (hb : w.editor.resolve b = some name')
    (hapart : w.editor.document.Apart name change name' change') :
    EitherOrder (·.run (.edit a change)) (·.run (.edit b change')) w := by
  have horder := Document.eitherOrder_edit hapart
  obtain ⟨hreply, -⟩ := Prod.mk.inj (run_edit_eq h ha change)
  obtain ⟨hreply', -⟩ := Prod.mk.inj (run_edit_eq h hb change')
  obtain ⟨hthen, hplain⟩ := Prod.mk.inj (run_edit_run_edit_eq h ha hb change change')
  obtain ⟨hthen', hplain'⟩ := Prod.mk.inj (run_edit_run_edit_eq h hb ha change' change)
  constructor
  case first => exact hthen.trans (horder.first.trans hreply.symm)
  case second => exact hthen'.trans (horder.second.trans hreply'.symm)
  case state =>
    refine eq_of_ofWorkspace (sound_run (sound_run h _) _) (sound_run (sound_run h _) _) ?_ ?_
    · rw [hplain, hplain', horder.state, Bool.or_right_comm]
    · simp only [held?_run_edit]

/-- **Changes that have nothing to do with each other may be made in either order**: each gets its
reply, and the whole workspace is the same after both, with the order of the sections and of the
entries, the names that were read, the current section and the snapshot. -/
theorem eitherOrder_run_edit (o : Options) (f : Folder) (commands : List Command)
    (ha : ((new o f).runAll commands).2.editor.resolve a = some name)
    (hb : ((new o f).runAll commands).2.editor.resolve b = some name')
    (hapart : ((new o f).runAll commands).2.editor.document.Apart name change name' change') :
    EitherOrder (·.run (.edit a change)) (·.run (.edit b change'))
      ((new o f).runAll commands).2 :=
  eitherOrder_of_apart (sound_runAll CachedDocument.sound_empty commands) ha hb hapart

/-- The first `x` goes and a `y` is added, both in the section that the snapshot holds; and all `x`
go while another section is begun. -/
theorem eitherOrder_erase_and_add :
    let commands : List Command :=
      [.parse "[a]\nx = 1\ny = 2\nx = 3\n[b]\n".toList, .enter "a".toList]
    let w := ((new {} []).runAll commands).2
    let add : Edit := .add "y".toList (.one (.text "4".toList))
    w.editor.held? = some "a".toList ∧
      EitherOrder (·.run (.edit .current (.eraseFirst "x".toList)))
        (·.run (.edit (.named "a".toList) add)) w ∧
      EitherOrder (·.run (.edit .current (.erase "x".toList)))
        (·.run (.edit (.named "c".toList) add)) w := by
  intro commands w add
  have hcurrent : w.editor.resolve .current = some "a".toList := by decide
  refine ⟨by decide, ?_, ?_⟩
  · exact eitherOrder_run_edit {} [] commands hcurrent rfl
      (.keys rfl (by decide) (by decide) (by decide))
  · exact eitherOrder_run_edit {} [] commands hcurrent rfl
      (.sections (by decide) fun hboth => absurd hboth.1.1 (by decide))

end Workspace

end IniConfig
