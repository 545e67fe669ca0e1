import IniConfig.Proofs.HiddenContent

/-!
# The current section

As the two forms of a request agree (`Editor.formsAgree`), a request about the current section is the
request about the section of that name, whether or not there is such a section and whether or not
the content counts; without a current section a question finds nothing, and all else is refused
(`Workspace.run_current`). So the requests of a run may as well name their sections
(`Workspace.runAll_spelledOut`). Which section is current is decided by the requests that were made,
and not by what became of the content: it is the one that was last selected or entered
(`Workspace.pointer?_runAll`).
-/

namespace IniConfig

/-- A request about a section, whichever section it is. -/
inductive SectionRequest where
  | ask (q : Query)
  | entries
  | edit (change : Edit)

namespace SectionRequest

def about (a : Address) : SectionRequest → Command
  | ask q => .ask a q
  | entries => .entries a
  | edit change => .edit a change

/-- The reply where there is no section. -/
def nowhere : SectionRequest → Reply
  | ask q => .ok q.blank
  | entries | edit _ => .error .noCurrentSection

end SectionRequest

/-- The request with the name of the section that is current, if one is. -/
def Command.spelledOut (current? : Option Text) : Command → Command
  | .ask .current q => .ask (current?.elim .current .named) q
  | .entries .current => .entries (current?.elim .current .named)
  | .edit .current change => .edit (current?.elim .current .named) change
  | c => c

namespace Editor

variable (e : Editor) (a : Address)

theorem pointer?_fetch (name : Text) : (e.fetch name).2.pointer? = e.pointer? := by
  unfold fetch
  split <;> rfl

theorem pointer?_ask (q : Query) : (e.ask a q).2.pointer? = e.pointer? := by
  cases ha : e.resolve a with
  | none => rw [ask_of_nowhere ha]
  | some name =>
    rw [ask_of_resolve ha]
    exact e.pointer?_fetch name

theorem pointer?_edit (change : Edit) : (e.edit a change).2.pointer? = e.pointer? := by
  cases ha : e.resolve a with
  | none => rw [edit_of_nowhere ha]
  | some name =>
    rw [edit_of_resolve ha]
    cases change.apply e.content name <;> rfl

theorem pointer?_parse (t : Text) : (e.parse t).2.pointer? = e.pointer? := by
  rw [parse_eq]

end Editor

namespace Step

/-- The name that a request makes that of the current section: one that is selected, or one that is
entered and not refused. -/
def pointed? (s : Step) : Option Text :=
  match s.command with
  | .select name => some name
  | .enter name => if s.reply.isOk then some name else none
  | _ => none

theorem pointer?_after_enter (w : Workspace) (name : Text) :
    (Step.mk w (.enter name)).after.editor.pointer? =
      (Step.mk w (.enter name)).pointed?.or w.editor.pointer? := by
  have hreply : (Step.mk w (.enter name)).reply = (w.editor.enter name).1 := rfl
  have hafter : (Step.mk w (.enter name)).after.editor = (w.editor.enter name).2 := rfl
  rw [pointed?, hreply, hafter]
  cases hcache : w.editor.content.cache name with
  | error fault =>
    rw [Editor.enter_of_missing hcache]
    rfl
  | ok c =>
    rw [Editor.enter_of_cached hcache]
    rfl

/-- **A request leaves the current section as it is**, unless it selects or enters one. -/
theorem pointer?_after (s : Step) :
    s.after.editor.pointer? = s.pointed?.or s.before.editor.pointer? := by
  obtain ⟨w, c⟩ := s
  cases c with
  | parse t => exact w.editor.pointer?_parse t
  | parseBytes bs => exact w.editor.pointer?_parse _
  | parseFile file =>
    simp only [after, Workspace.run, Workspace.parseFile]
    cases w.folder.read file with
    | error cause => rfl
    | ok bs => exact w.editor.pointer?_parse _
  | writeFile file => exact congrArg Editor.pointer? (w.editor_writeFile file)
  | clear => rfl
  | enter name => exact pointer?_after_enter w name
  | select name => rfl
  | inspect i => rfl
  | look l => rfl
  | ask a q => exact w.editor.pointer?_ask a q
  | entries a =>
    have hafter : (Step.mk w (.entries a)).after.editor = (w.editor.ask a .size).2 :=
      w.editor.snd_entries a .size
    rw [hafter]
    exact w.editor.pointer?_ask a .size
  | edit a change => exact w.editor.pointer?_edit a change

/-- The name that was last made that of the current section. -/
def lastPointed? (steps : List Step) : Option Text := steps.reverse.findSome? pointed?

theorem lastPointed?_concat (steps : List Step) (s : Step) :
    lastPointed? (steps ++ [s]) = s.pointed?.or (lastPointed? steps) := by
  unfold lastPointed?
  rw [List.reverse_append, List.reverse_singleton, List.singleton_append, List.findSome?_cons]
  cases s.pointed? <;> rfl

theorem lastPointed?_eq_none {steps : List Step} (h : ∀ s ∈ steps, s.pointed? = none) :
    lastPointed? steps = none := by
  rw [lastPointed?, List.findSome?_eq_none_iff]
  intro s hs
  exact h s (List.mem_reverse.1 hs)

end Step

namespace Workspace

variable {w : Workspace}

/-- The requests of a run, each with the name of the section that is current when it is made. -/
def spelledOut (w : Workspace) : List Command → List Command
  | [] => []
  | c :: cs => c.spelledOut w.editor.current? :: (w.run c).2.spelledOut cs

/-- **A request about the current section is one about the section of that name.** -/
theorem run_current (w : Workspace) (r : SectionRequest) :
    w.run (r.about .current) =
      w.editor.current?.elim (r.nowhere, w) fun name => w.run (r.about (.named name)) := by
  cases r with
  | ask q =>
    simp only [SectionRequest.about, run, Editor.ask, Editor.askCurrent_eq, Editor.atCurrent]
    cases w.editor.current? <;> rfl
  | entries =>
    simp only [SectionRequest.about, run, Editor.entries, w.editor.formsAgree.allEntries,
      Editor.atCurrent]
    cases w.editor.current? <;> rfl
  | edit change =>
    simp only [SectionRequest.about, run, Editor.edit, Editor.editCurrent_eq, Editor.atCurrent]
    cases w.editor.current? <;> rfl

theorem run_spelledOut (w : Workspace) (c : Command) :
    w.run (c.spelledOut w.editor.current?) = w.run c := by
  have hcurrent (r : SectionRequest) :
      w.run (r.about (w.editor.current?.elim .current .named)) = w.run (r.about .current) := by
    rw [run_current w r]
    cases hc : w.editor.current? with
    | none => rw [Option.elim_none, run_current w r, hc]
    | some name => rfl
  cases c with
  | ask a q =>
    cases a with
    | named name => rfl
    | current => exact hcurrent (.ask q)
  | entries a =>
    cases a with
    | named name => rfl
    | current => exact hcurrent .entries
  | edit a change =>
    cases a with
    | named name => rfl
    | current => exact hcurrent (.edit change)
  | _ => rfl

theorem runAll_spelledOut (w : Workspace) (commands : List Command) :
    w.runAll (w.spelledOut commands) = w.runAll commands := by
  induction commands generalizing w with
  | nil => rfl
  | cons c cs ih => simp only [spelledOut, runAll, run_spelledOut, ih]

/-- The current section is the one that was last selected or entered in a run, or else the one that
it was before. -/
theorem pointer?_runAll_eq (w : Workspace) (commands : List Command) :
    (w.runAll commands).2.editor.pointer? =
      (Step.lastPointed? (w.steps commands)).or w.editor.pointer? := by
  induction commands using List.reverseRecOn with
  | nil => rfl
  | append_singleton cs c ih =>
    rw [runAll_concat, steps_concat, Step.lastPointed?_concat, Step.pointer?_after, ih,
      Option.or_assoc]

theorem pointer?_runAll (hw : w.editor.pointer? = none) (commands : List Command) :
    (w.runAll commands).2.editor.pointer? = Step.lastPointed? (w.steps commands) := by
  rw [pointer?_runAll_eq, hw, Option.or_none]

/-- **Wherever a run has come to, the two forms of each request agree, and the current section is
the one that was last selected or entered**; so its requests are those about the section of that
name, and the run is the one in which every request names its section. -/
theorem runs_current (o : Options) (f : Folder) (commands : List Command) :
    ((new o f).runAll commands).2.editor.FormsAgree ∧
      (∀ r : SectionRequest,
        ((new o f).runAll commands).2.run (r.about .current) =
          ((new o f).runAll commands).2.editor.current?.elim
            (r.nowhere, ((new o f).runAll commands).2)
            fun name => ((new o f).runAll commands).2.run (r.about (.named name))) ∧
      (new o f).runAll ((new o f).spelledOut commands) = (new o f).runAll commands ∧
      ((new o f).runAll commands).2.editor.pointer? =
        Step.lastPointed? ((new o f).steps commands) ∧
      ((new o f).runAll commands).2.editor.current? =
        (Step.lastPointed? ((new o f).steps commands)).filter (· ≠ []) := by
  have hpointer := pointer?_runAll (w := new o f) rfl commands
  refine ⟨Editor.formsAgree _, run_current _, runAll_spelledOut _ commands, hpointer, ?_⟩
  rw [Editor.current?, hpointer]

/-- The current section is kept when a text with a fault, and then none, takes the place of the one
that it was in. -/
example :
    let commands : List Command := [.parse "[a]\nx = 1\n".toList, .enter "a".toList,
      .parse "x = 1".toList, .clear, .enter "b".toList]
    ((new {} []).runAll commands).2.editor.current? = some "a".toList := by
  decide

end Workspace

end IniConfig
