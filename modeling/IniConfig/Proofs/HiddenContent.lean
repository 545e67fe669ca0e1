import IniConfig.Proofs.Histories

/-!
# Content that does not count

A text with a fault leaves the sections before the fault, but they do not count. As long as they do
not, every question is answered as if there were no section, and nothing is written
(`Workspace.Hides`); no question then looks a section up, so the snapshot stays as well. The first
entry that is added makes all of them count as they stand.
-/

namespace IniConfig

/-- A section that is there after an entry was added has its entries, and that one if it was added
to it. -/
theorem Document.find?_append_entry_of_mem {d : Document} {name other : Text} {e : Entry}
    (h : other ∈ (d.append name e).names) :
    (d.append name e).find? other =
      some ((d.find? other).getD [] ++ if other = name then [e] else []) := by
  have hfind := d.find?_append_entry name other e
  by_cases ho : other = name
  · rw [hfind, if_pos ho, if_pos ho, ho]
  · rw [if_neg ho] at hfind
    cases hs : d.find? other with
    | none => exact absurd h (find?_eq_none_iff.1 (hfind.trans hs))
    | some s => rw [hfind, hs, if_neg ho, Option.getD_some, List.append_nil]

namespace Editor

variable {e : Editor} {a : Address}

theorem ask_of_not_parsed (h : e.parsed = false) (a : Address) (q : Query) :
    e.ask a q = (q.absent, e) := by
  cases ha : e.resolve a with
  | none => exact ask_of_nowhere ha q
  | some name =>
    rw [ask_of_resolve ha, fetch_of_not_parsed h]
    rfl

theorem entries_of_not_parsed (h : e.parsed = false) (a : Address) :
    e.entries a =
      (.error (if (e.resolve a).isSome then .nothingParsed else .noCurrentSection), e) := by
  cases ha : e.resolve a with
  | none => rw [entries_of_nowhere ha]; rfl
  | some name => rw [entries_of_resolve ha, if_neg (by simp [h])]; rfl

theorem render_of_not_parsed (h : e.parsed = false) : e.render = [] := by
  simp [render, h]

theorem entries_of_find? {name : Text} {s : Section} (hsound : e.content.Sound)
    (h : e.parsed = true) (hs : e.document.find? name = some s) :
    (e.entries (.named name)).1 = .ok (.entries s) := by
  have hfetch := fetch_eq hsound name
  rw [if_pos h, hs] at hfetch
  have hresolve : e.resolve (.named name) = some name := rfl
  rw [entries_of_resolve hresolve, if_pos h, hfetch]
  rfl

end Editor

theorem Charset.encode_nil (c : Charset) : c.encode [] = [] := by
  cases c <;> rfl

namespace Workspace

variable {w : Workspace}

/-- What is asked of the workspace finds nothing and changes nothing, and the first entry that is
added shows all sections as they are. -/
structure Hides (w : Workspace) : Prop where
  ask : ∀ a q, w.run (.ask a q) = (.ok q.blank, w)
  entries : ∀ a, w.run (.entries a) =
    (.error (if (w.editor.resolve a).isSome then .nothingParsed else .noCurrentSection), w)
  render : w.run (.inspect .render) = (.ok (.text []), w)
  writeFile_editor : ∀ file, (w.run (.writeFile file)).2.editor = w.editor
  writeFile : ∀ file answer, (w.run (.writeFile file)).1 = .ok answer →
    (w.run (.writeFile file)).2.folder.read file = .ok []
  add : ∀ a name key payload, w.editor.resolve a = some name →
    ∀ other ∈ (w.run (.edit a (.add key payload))).2.editor.document.names,
      ((w.run (.edit a (.add key payload))).2.run (.entries (.named other))).1 =
        .ok (.entries ((w.editor.document.find? other).getD [] ++
          if other = name then [⟨key, payload.write⟩] else []))

theorem entries_after_add (hsound : w.editor.content.Sound) {a : Address} {name key other : Text}
    {payload : Payload} (ha : w.editor.resolve a = some name)
    (hother : other ∈ (w.run (.edit a (.add key payload))).2.editor.document.names) :
    ((w.run (.edit a (.add key payload))).2.run (.entries (.named other))).1 =
      .ok (.entries ((w.editor.document.find? other).getD [] ++
        if other = name then [⟨key, payload.write⟩] else [])) := by
  have hparsed := Editor.parsed_edit_add ha key payload
  have hdocument := Editor.document_edit_add ha key payload
  have hsound' := Editor.sound_edit hsound a (.add key payload)
  have hother' : other ∈ (w.editor.document.append name ⟨key, payload.write⟩).names := by
    rwa [← hdocument]
  apply Editor.entries_of_find? hsound' hparsed
  rw [hdocument, Document.find?_append_entry_of_mem hother']

theorem hides_of_not_parsed (hsound : w.editor.content.Sound) (h : w.editor.parsed = false) :
    w.Hides := by
  constructor
  case ask =>
    intro a q
    rw [run, Editor.ask_of_not_parsed h, Query.absent_eq_blank]
    rfl
  case entries =>
    intro a
    rw [run, Editor.entries_of_not_parsed h]
    rfl
  case render => rw [run, Inspection.answer, Editor.render_of_not_parsed h]
  case writeFile_editor => exact w.editor_writeFile
  case writeFile =>
    intro file answer hanswer
    rw [read_of_writeFile hanswer, Editor.renderBytes, Editor.render_of_not_parsed h,
      Charset.encode_nil]
  case add =>
    intro a name key payload ha other hother
    exact entries_after_add hsound ha hother

/-- **The content counts once a text was read without fault or an entry was added, until it is
replaced; and while it does not count, it does not show.** -/
theorem parsed_iff_and_hides (o : Options) (f : Folder) (commands : List Command) :
    (((new o f).runAll commands).2.editor.parsed = true ↔
        (∃ s, Step.lastReplacing? ((new o f).steps commands) = some s ∧ s.ReadsText) ∨
          ∃ s ∈ Step.sinceReplaced ((new o f).steps commands), s.AddsEntry) ∧
      (((new o f).runAll commands).2.editor.parsed = false →
        ((new o f).runAll commands).2.Hides) := by
  have hsound := sound_runAll (w := new o f) CachedDocument.sound_empty commands
  exact ⟨parsed_runAll_iff rfl commands, hides_of_not_parsed hsound⟩

/-- A fault leaves a section that does not show until an entry is added to another. -/
theorem hides_section_before_fault :
    let commands : List Command := [.parse "[a]\nx = 1\n[]\ny = 2\n".toList]
    let w := ((new {} []).runAll commands).2
    let w' := (w.run (.edit (.named "b".toList) (.add "k".toList (.one (.text "v".toList))))).2
    w.editor.document.names = ["a".toList] ∧ w.editor.parsed = false ∧
      w.run (.ask (.named "a".toList) (.value "x".toList)) = (.ok (.text []), w) ∧
      (w'.run (.entries (.named "a".toList))).1 =
        .ok (.entries [⟨"x".toList, "1".toList⟩]) ∧
      (w'.run (.entries (.named "b".toList))).1 =
        .ok (.entries [⟨"k".toList, "v".toList⟩]) := by
  intro commands w w'
  have hparsed : w.editor.parsed = false := by decide
  have hides : w.Hides := (parsed_iff_and_hides {} [] commands).2 hparsed
  refine ⟨by decide, hparsed, hides.ask _ _, ?_, ?_⟩
  · exact hides.add (.named "b".toList) _ _ _ rfl "a".toList (by decide)
  · exact hides.add (.named "b".toList) _ _ _ rfl "b".toList (by decide)

end Workspace

end IniConfig
