import IniConfig.Proofs.CurrentSection

/-!
# Entering a section

A section is entered exactly if it is there, and a name that no section has changes nothing
(`Workspace.run_enter`). The section that is entered is the one in the snapshot, and the requests
about the current section are about it, whatever else is asked for, until a section is selected or
entered (`Workspace.StandsIn`). The section of the empty name is the exception: it can be entered
like any other, but the empty name stands for no section, so there is no current one then
(`Workspace.current?_nameless`).
-/

namespace IniConfig

namespace Workspace

/-- The section of this name is the current one: a request about the current section is about this
one, and an entry is added at its end. -/
structure WorksOn (w : Workspace) (name : Text) : Prop where
  current : w.editor.current? = some name
  request : ∀ r : SectionRequest, w.run (r.about .current) = w.run (r.about (.named name))
  add : ∀ key payload, ∃ w', w.run (.edit .current (.add key payload)) = (.ok .nothing, w') ∧
    ∀ other, w'.editor.document.find? other =
      if other = name then
        some ((w.editor.document.find? name).getD [] ++ [⟨key, payload.write⟩])
      else w.editor.document.find? other

/-- There is no current section: a question about it finds nothing, and all else is refused. -/
structure WorksNowhere (w : Workspace) : Prop where
  current : w.editor.current? = none
  request : ∀ r : SectionRequest, w.run (r.about .current) = (r.nowhere, w)

/-- The section of this name is the one in the snapshot, and it is the current one until a section
is selected or entered; if the name is empty, there is no current section until then. -/
structure StandsIn (w : Workspace) (name : Text) : Prop where
  held : w.editor.held? = some name
  named : name ≠ [] → ∀ later, (∀ s ∈ w.steps later, s.pointed? = none) →
    (w.runAll later).2.WorksOn name
  nameless : name = [] → ∀ later, (∀ s ∈ w.steps later, s.pointed? = none) →
    (w.runAll later).2.WorksNowhere

variable {w : Workspace} {name : Text} {later : List Command}

/-- Without a section that is selected or entered, a run leaves the current section as it is. -/
theorem pointer?_runAll_of_kept (h : ∀ s ∈ w.steps later, s.pointed? = none) :
    (w.runAll later).2.editor.pointer? = w.editor.pointer? := by
  rw [pointer?_runAll_eq, Step.lastPointed?_eq_none h, Option.none_or]

theorem worksOn_of_pointer? (h : w.editor.pointer? = some name) (hname : name ≠ []) :
    w.WorksOn name := by
  have hcurrent : w.editor.current? = some name := by
    rw [Editor.current?, h, Option.filter_some, if_pos (decide_eq_true hname)]
  constructor
  case current => exact hcurrent
  case request =>
    intro r
    rw [run_current, hcurrent, Option.elim_some]
  case add =>
    intro key payload
    have ha : w.editor.resolve .current = some name := hcurrent
    have hreply : (w.editor.edit .current (.add key payload)).1 = .ok .nothing := by
      rw [Editor.edit_of_applied ha rfl]
    refine ⟨_, Prod.ext hreply rfl, ?_⟩
    intro other
    rw [← Document.find?_append_entry, ← Editor.document_edit_add ha]
    rfl

theorem worksNowhere_of_pointer? (h : w.editor.pointer? = some []) : w.WorksNowhere := by
  have hcurrent : w.editor.current? = none := by
    rw [Editor.current?, h]
    rfl
  constructor
  case current => exact hcurrent
  case request =>
    intro r
    rw [run_current, hcurrent, Option.elim_none]

theorem standsIn_of_pointer? (hheld : w.editor.held? = some name)
    (h : w.editor.pointer? = some name) : w.StandsIn name := by
  constructor
  case held => exact hheld
  case named =>
    intro hname later hlater
    exact worksOn_of_pointer? ((pointer?_runAll_of_kept hlater).trans h) hname
  case nameless =>
    intro hname later hlater
    subst hname
    exact worksNowhere_of_pointer? ((pointer?_runAll_of_kept hlater).trans h)

/-- **A section is entered exactly if it is there**, whatever was done before; otherwise nothing
changes. -/
theorem run_enter (w : Workspace) (name : Text) :
    ((w.run (.enter name)).1 = .ok .nothing ↔
        (w.run (.inspect (.hasSection name))).1 = .ok (.truth true)) ∧
      ((w.run (.enter name)).1 = .ok .nothing → (w.run (.enter name)).2.StandsIn name) ∧
      ((w.run (.enter name)).1 ≠ .ok .nothing →
        w.run (.enter name) = (.error (.sectionNotFound name), w)) := by
  have hexists : (w.run (.inspect (.hasSection name))).1 =
      .ok (.truth (w.editor.content.document.contains name)) := rfl
  cases hcache : w.editor.content.cache name with
  | ok c =>
    have hrun : w.run (.enter name) = (.ok .nothing,
        { w with editor := { w.editor with content := c, pointer? := some name } }) := by
      rw [run, Editor.enter_of_cached hcache]
      rfl
    rw [hrun, hexists, CachedDocument.contains_of_cache hcache]
    refine ⟨by simp, ?_, by simp⟩
    intro _
    exact standsIn_of_pointer? (CachedDocument.name?_cache hcache) rfl
  | error fault =>
    obtain ⟨hmissing, rfl⟩ := CachedDocument.cache_eq_error_iff.1 hcache
    have hrun : w.run (.enter name) = (.error (.sectionNotFound name), w) := by
      rw [run, Editor.enter_of_missing hcache]
      rfl
    rw [hrun, hexists, hmissing]
    exact ⟨by simp, by simp, fun _ => rfl⟩

/-- The section that is entered stays the current one when a text without it takes the place of the
content, and it cannot be entered again. -/
theorem run_enter_before_other_text :
    let w := ((new {} []).runAll [.parse "[a]\nx = 1\n".toList,
      .edit (.named []) (.add "x".toList (.one (.text "2".toList)))]).2
    let later : List Command :=
      [.look (.cache []), .parse "[b]\ny = 3\n".toList, .enter "a".toList]
    (w.run (.enter "a".toList)).1 = .ok .nothing ∧
      (w.run (.enter "a".toList)).2.editor.held? = some "a".toList ∧
      ((w.run (.enter "a".toList)).2.runAll later).2.WorksOn "a".toList ∧
      ((w.run (.enter [])).2.runAll later).2.WorksNowhere ∧
      w.run (.enter "b".toList) = (.error (.sectionNotFound "b".toList), w) := by
  intro w later
  have ha : (w.run (.enter "a".toList)).1 = .ok .nothing := by decide
  have hempty : (w.run (.enter [])).1 = .ok .nothing := by decide
  have hb : (w.run (.enter "b".toList)).1 ≠ .ok .nothing := by decide
  have hstands := (run_enter w "a".toList).2.1 ha
  refine ⟨ha, hstands.held, hstands.named (by decide) later (by decide), ?_, ?_⟩
  · exact ((run_enter w []).2.1 hempty).nameless rfl later (by decide)
  · exact (run_enter w "b".toList).2.2 hb

/-- The section of the empty name is there and can be entered, but is not the current one then. -/
theorem current?_nameless :
    let w := ((new {} []).runAll
      [.edit (.named []) (.add "x".toList (.one (.text "1".toList)))]).2
    (w.run (.inspect (.hasSection []))).1 = .ok (.truth true) ∧
      (w.run (.enter [])).1 = .ok .nothing ∧
      (w.run (.enter [])).2.editor.held? = some [] ∧
      (w.run (.enter [])).2.editor.current? = none ∧
      ((w.run (.enter [])).2.run (.inspect .current)).1 = .ok .nothing := by
  decide

end Workspace

end IniConfig
