import IniConfig.Proofs.Requests

/-!
# The order of the sections over a run

The sections that the last text gave stand first, in the order in which they were read, and those
that were begun later by an added entry stand behind them in the order in which they came
(`Editor.IsOrdered`). Each request keeps this: a text gives all sections there are, and any other
request but the one that clears all leaves the names as they were, with one more at the end at the
most (`Step.keeps`).
-/

namespace IniConfig

/-- No name is given twice, and the named sections of the last text stand first. -/
structure Editor.IsOrdered (e : Editor) : Prop where
  nodup : e.document.names.Nodup
  readFirst : e.readNames <+: e.document.names
  named : [] ∉ e.readNames

namespace Editor

variable {e : Editor}

theorem isOrdered_of_nil (hnames : e.document.names = []) (hread : e.readNames = []) :
    e.IsOrdered := by
  constructor <;> simp [hnames, hread]

theorem isOrdered_parse (e : Editor) (t : Text) : (e.parse t).2.IsOrdered := by
  constructor
  case nodup =>
    rw [document_parse]
    exact Parsed.nodup_ofText e.options t
  case readFirst => exact readNames_parse e t ▸ List.prefix_rfl
  case named =>
    rw [readNames_parse, document_parse]
    exact Parsed.nil_not_mem_names_ofText e.options t

end Editor

namespace Step

variable {s : Step}

/-- What a request does to the names of the sections. -/
structure OrdersNames (s : Step) : Prop where
  /-- A text leaves the sections that it gave, whether or not it has a fault. -/
  text : ∀ t, s.text? = some t → s.after.editor.readNames = s.after.editor.document.names
  /-- Only an entry for a section that is missing adds a name, and it adds it at the end. -/
  others : s.replaces = false →
    s.after.editor.document.names = s.before.editor.document.names ++ s.begun?.toList
  kept : s.replaces = false → s.addedTo? = none ∨ s.reply.isOk = false →
    s.after.editor.document.names = s.before.editor.document.names

theorem text?_of_not_replaces (h : s.replaces = false) : s.text? = none := by
  simpa using (Bool.or_eq_false_iff.1 h).1

theorem ordersNames (s : Step) : s.OrdersNames := by
  constructor
  case text =>
    intro t ht
    rw [after_of_text ht]
    exact Editor.readNames_parse _ t
  case others =>
    intro h
    exact (keeps h).names
  case kept =>
    intro h hkept
    rcases hkept with hadded | hrefused
    · rw [(keeps h).names, begun?_of_not_added hadded, Option.toList_none, List.append_nil]
    · cases hreply : s.reply with
      | ok answer => simp [hreply, Except.isOk, Except.toBool] at hrefused
      | error fault => rw [after_of_refused (text?_of_not_replaces h) hreply]

theorem nodup_names_after (hr : s.replaces = false) (h : s.before.editor.document.names.Nodup) :
    s.after.editor.document.names.Nodup := by
  rw [(keeps hr).names]
  cases hb : s.begun? with
  | none => simpa using h
  | some name =>
    obtain ⟨-, hn⟩ := Option.filter_eq_some_iff.1 hb
    have hnodup := Document.nodup_names_concat (s := []) h (of_decide_eq_true hn)
    rwa [Document.names_append] at hnodup

theorem isOrdered_after (h : s.before.editor.IsOrdered) : s.after.editor.IsOrdered := by
  cases hr : s.replaces with
  | true =>
    rcases replaces_iff.1 hr with ⟨t, ht⟩ | hc
    · rw [after_of_text ht]
      exact Editor.isOrdered_parse _ t
    · rw [after_of_clear hc]
      exact Editor.isOrdered_of_nil rfl rfl
  | false =>
    constructor
    case nodup => exact nodup_names_after hr h.nodup
    case readFirst =>
      rw [(keeps hr).names, (keeps hr).readNames]
      exact h.readFirst.trans (List.prefix_append _ _)
    case named =>
      rw [(keeps hr).readNames]
      exact h.named

end Step

namespace Workspace

variable {w : Workspace}

theorem isOrdered_runAll (h : w.editor.IsOrdered) (commands : List Command) :
    (w.runAll commands).2.editor.IsOrdered := by
  induction commands generalizing w with
  | nil => exact h
  | cons command commands ih => exact ih (Step.isOrdered_after (s := ⟨w, command⟩) h)

/-- **Wherever a run has come to, the sections of the last text stand first and no name is given
twice; and no request but one that replaces the content does more to the names than to add one at
the end.** -/
theorem isOrdered_and_ordersNames (o : Options) (f : Folder) (commands : List Command) :
    ((new o f).runAll commands).2.editor.IsOrdered ∧
      ∀ command, (Step.mk ((new o f).runAll commands).2 command).OrdersNames := by
  have hnew : (new o f).editor.IsOrdered := Editor.isOrdered_of_nil rfl rfl
  refine ⟨isOrdered_runAll hnew commands, ?_⟩
  intro command
  exact Step.ordersNames _

/-- After a text with a fault, an entry for a missing section puts it behind those before the
fault, and one for a section that is there leaves it in its place. -/
theorem ordersNames_fault_then_entries :
    let commands : List Command := [.parse "[b]\nx = 1\n[c]\ny = 2\n[]\nz = 3\n".toList]
    let add (name : String) : Command :=
      .edit (.named name.toList) (.add "k".toList (.one (.text "v".toList)))
    let w := ((new {} []).runAll commands).2
    w.editor.parsed = false ∧ w.editor.readNames = ["b".toList, "c".toList] ∧
      (Step.mk w (add "a")).after.editor.document.names =
        ["b".toList, "c".toList, "a".toList] ∧
      (Step.mk w (add "b")).after.editor.document.names = ["b".toList, "c".toList] := by
  intro commands add w
  have hsteps (command : Command) : (Step.mk w command).OrdersNames :=
    (isOrdered_and_ordersNames {} [] commands).2 command
  exact ⟨rfl, rfl, (hsteps (add "a")).others rfl, (hsteps (add "b")).others rfl⟩

end Workspace

end IniConfig
