import IniConfig.Proofs.Requests
import Mathlib.Data.List.Induction

/-!
# What a run leaves remembered

What an editor remembers of a run is decided by the requests since the content was last replaced.
The section in the snapshot is the one that was looked up last among them
(`held?_runAll`), and the content counts if the text that replaced it was read without fault or an
entry was added since (`parsed_runAll_iff`). Both are read off the history of the run, from its
latest request backwards.
-/

namespace IniConfig

namespace Workspace

/-- The requests of a run, each with the workspace in which it is made, in order. -/
def steps (w : Workspace) : List Command → List Step
  | [] => []
  | c :: cs => ⟨w, c⟩ :: (w.run c).2.steps cs

variable {w : Workspace}

theorem runAll_append (w : Workspace) (cs cs' : List Command) :
    (w.runAll (cs ++ cs')).2 = ((w.runAll cs).2.runAll cs').2 := by
  induction cs generalizing w with
  | nil => rfl
  | cons c cs ih => exact ih (w.run c).2

theorem runAll_concat (w : Workspace) (cs : List Command) (c : Command) :
    (w.runAll (cs ++ [c])).2 = (Step.mk (w.runAll cs).2 c).after :=
  runAll_append w cs [c]

theorem steps_concat (w : Workspace) (cs : List Command) (c : Command) :
    w.steps (cs ++ [c]) = w.steps cs ++ [⟨(w.runAll cs).2, c⟩] := by
  induction cs generalizing w with
  | nil => rfl
  | cons d cs ih => exact congrArg _ (ih (w.run d).2)

end Workspace

namespace Step

variable {s : Step}

/-- The requests since the content was last replaced, the latest first. -/
def sinceReplaced (steps : List Step) : List Step := steps.reverse.takeWhile (!·.replaces)

theorem sinceReplaced_concat (steps : List Step) (s : Step) :
    sinceReplaced (steps ++ [s]) = if s.replaces then [] else s :: sinceReplaced steps := by
  unfold sinceReplaced
  rw [List.reverse_append, List.reverse_singleton, List.singleton_append, List.takeWhile_cons]
  cases s.replaces <;> rfl

/-- The request that last replaced the content. -/
def lastReplacing? (steps : List Step) : Option Step := steps.reverse.find? (·.replaces)

theorem lastReplacing?_concat (steps : List Step) (s : Step) :
    lastReplacing? (steps ++ [s]) = if s.replaces then some s else lastReplacing? steps := by
  unfold lastReplacing?
  rw [List.reverse_append, List.reverse_singleton, List.singleton_append, List.find?_cons]
  cases s.replaces <;> rfl

theorem held?_after_of_replaces (h : s.replaces = true) : s.after.editor.held? = none := by
  rcases replaces_iff.1 h with ⟨t, ht⟩ | hc
  · rw [after_of_text ht, Editor.held?, Editor.snapshot_parse]
    rfl
  · rw [after_of_clear hc]
    rfl

/-- A text is put in place of the content, and it has no fault. -/
def ReadsText (s : Step) : Prop := s.text?.isSome ∧ s.reply = .ok .nothing

/-- An entry is added. -/
def AddsEntry (s : Step) : Prop :=
  ∃ a key payload, s.command = .edit a (.add key payload) ∧ s.reply = .ok .nothing

theorem addsEntry_iff : s.AddsEntry ↔ s.addedTo?.isSome := by
  obtain ⟨w, c⟩ := s
  constructor
  · rintro ⟨a, key, payload, hc, hreply⟩
    obtain rfl : c = .edit a (.add key payload) := hc
    cases ha : w.editor.resolve a with
    | some name => simp [addedTo?, ha]
    | none =>
      have hrefused : (w.editor.edit a (.add key payload)).1 = .ok .nothing := hreply
      rw [Editor.edit_of_nowhere ha] at hrefused
      cases hrefused
  · intro h
    unfold addedTo? at h
    split at h
    next a key payload hc =>
      obtain rfl : c = .edit a (.add key payload) := hc
      obtain ⟨name, ha⟩ := Option.isSome_iff_exists.1 h
      refine ⟨a, key, payload, rfl, ?_⟩
      exact congrArg Prod.fst (Editor.edit_of_applied ha rfl)
    next => cases h

theorem parsed_after_of_replaces (h : s.replaces = true) :
    s.after.editor.parsed = true ↔ s.ReadsText := by
  rcases replaces_iff.1 h with ⟨t, ht⟩ | hc
  · rw [after_of_text ht, ReadsText, reply_of_text ht, Editor.parse_fst_eq_ok_iff,
      Editor.parsed_parse, ht, Option.isNone_iff_eq_none]
    simp
  · rw [after_of_clear hc, ReadsText, text?, hc]
    simp [Editor.clear]

/-- The requests that look no section up, by what they ask for or by how they end. -/
inductive IsAside (s : Step) : Prop
  | edit {a : Address} {change : Edit} (hc : s.command = .edit a change)
  | writeFile {file : Text} (hc : s.command = .writeFile file)
  | inspect {i : Inspection} (hc : s.command = .inspect i)
  | select {name : Text} (hc : s.command = .select name)
  | observe {o : Observation} (hc : s.command = .look (.observe o))
  /-- The section that is asked about is missing. -/
  | missing {a : Address} (hc : s.command.asked? = some a)
      (ha : ∀ name, s.before.editor.resolve a = some name → name ∉ s.before.editor.document.names)
  /-- A section is asked about while the content does not count. -/
  | hidden {a : Address} (hc : s.command.asked? = some a) (hp : s.before.editor.parsed = false)
  | refused {fault : Fault} (ht : s.text? = none) (hf : s.reply = .error fault)

theorem held?_of_lookedUp?_eq_none (hr : s.replaces = false) (hl : s.lookedUp? = none) :
    s.after.editor.held? = s.before.editor.held? := by
  rw [(keeps hr).held, hl, Option.none_or]

theorem replaces_of_asked {a : Address} (hc : s.command.asked? = some a) :
    s.replaces = false := by
  obtain ⟨w, c⟩ := s
  cases c with
  | ask b q => rfl
  | entries b => rfl
  | _ => cases hc

theorem IsAside.held?_eq (h : s.IsAside) : s.after.editor.held? = s.before.editor.held? := by
  obtain ⟨w, c⟩ := s
  cases h with
  | edit hc => cases hc; exact held?_of_lookedUp?_eq_none rfl rfl
  | writeFile hc => cases hc; exact held?_of_lookedUp?_eq_none rfl rfl
  | inspect hc => cases hc; exact held?_of_lookedUp?_eq_none rfl rfl
  | select hc => cases hc; exact held?_of_lookedUp?_eq_none rfl rfl
  | observe hc => cases hc; exact held?_of_lookedUp?_eq_none rfl rfl
  | @missing a hc ha =>
    apply held?_of_lookedUp?_eq_none (replaces_of_asked hc)
    have hnone : (w.editor.resolve a).bind w.editor.document.present? = none := by
      rw [Option.bind_eq_none_iff]
      intro name hname
      exact if_neg (ha name hname)
    rw [lookedUp?_of_asked hc, hnone, ite_self]
  | hidden hc hp =>
    apply held?_of_lookedUp?_eq_none (replaces_of_asked hc)
    rw [lookedUp?_of_asked hc, hp]
    rfl
  | refused ht hf => rw [after_of_refused ht hf]

end Step

namespace Workspace

variable {w : Workspace}

theorem held?_runAll (hw : w.editor.held? = none) (commands : List Command) :
    (w.runAll commands).2.editor.held? =
      (Step.sinceReplaced (w.steps commands)).findSome? Step.lookedUp? := by
  induction commands using List.reverseRecOn with
  | nil => exact hw
  | append_singleton cs c ih =>
    rw [runAll_concat, steps_concat, Step.sinceReplaced_concat]
    cases hr : (Step.mk (w.runAll cs).2 c).replaces with
    | true => exact Step.held?_after_of_replaces hr
    | false =>
      rw [(Step.keeps hr).held, ih, if_neg (by simp), List.findSome?_cons]
      cases (Step.mk (w.runAll cs).2 c).lookedUp? <;> rfl

theorem parsed_runAll_iff (hw : w.editor.parsed = false) (commands : List Command) :
    (w.runAll commands).2.editor.parsed = true ↔
      (∃ s, Step.lastReplacing? (w.steps commands) = some s ∧ s.ReadsText) ∨
        ∃ s ∈ Step.sinceReplaced (w.steps commands), s.AddsEntry := by
  induction commands using List.reverseRecOn with
  | nil => simp [runAll, hw, steps, Step.lastReplacing?, Step.sinceReplaced]
  | append_singleton cs c ih =>
    rw [runAll_concat, steps_concat, Step.sinceReplaced_concat, Step.lastReplacing?_concat]
    cases hr : (Step.mk (w.runAll cs).2 c).replaces with
    | true =>
      rw [Step.parsed_after_of_replaces hr]
      simp
    | false =>
      rw [(Step.keeps hr).parsed, Bool.or_eq_true, ih, ← Step.addsEntry_iff]
      simp only [Bool.false_eq_true, if_false, List.mem_cons, exists_eq_or_imp]
      rw [or_assoc, or_comm (b := Step.AddsEntry _)]

/-- **The section in the snapshot is the one that was looked up last since the content was
replaced**, and nothing but looking up a section changes which one it is. -/
theorem held?_eq_findSome?_lookedUp? (o : Options) (f : Folder) (commands : List Command) :
    ((new o f).runAll commands).2.editor.held? =
        (Step.sinceReplaced ((new o f).steps commands)).findSome? Step.lookedUp? ∧
      ∀ s : Step, s.IsAside → s.after.editor.held? = s.before.editor.held? := by
  refine ⟨held?_runAll rfl commands, ?_⟩
  intro s hs
  exact hs.held?_eq

/-- The section that was entered gives way to the one that is asked about, and that one stays when
a missing one is asked about. -/
theorem held?_entered_then_asked :
    let commands : List Command := [.parse "[a]\nx = 1\n[b]\ny = 2\n".toList,
      .enter "b".toList, .ask (.named "a".toList) (.value "x".toList)]
    let w := ((new {} []).runAll commands).2
    let s : Step := ⟨w, .ask (.named "c".toList) .size⟩
    w.editor.held? = some "a".toList ∧ s.IsAside ∧ s.after.editor.held? = some "a".toList := by
  intro commands w s
  have hw : w.editor.held? = some "a".toList :=
    (held?_eq_findSome?_lookedUp? {} [] commands).1.trans (by decide)
  have hs : s.IsAside := by
    refine .missing rfl ?_
    intro name hname
    obtain rfl : "c".toList = name := Option.some.inj hname
    decide
  refine ⟨hw, hs, ?_⟩
  rw [(held?_eq_findSome?_lookedUp? {} [] commands).2 s hs]
  exact hw

end Workspace

end IniConfig
