import IniConfig.Proofs.Charsets
import IniConfig.Proofs.Requests

/-!
# Content that is saved and read again

A file in which content was saved is read as the text that was written for the content
(`decode_renderBytes`). Text in general need not come back from its bytes: a text may begin with
what looks like a byte order mark, and the mark is then lost. The text of a document begins with a
bracket, if there is any, and a bracket is the same byte in every charset and begins no mark
(`ofMark?_renderBytes`).
-/

namespace IniConfig

theorem Document.render_eq_nil_or_bracket (d : Document) :
    d.render = [] ∨ ∃ t, d.render = '[' :: t := by
  cases d with
  | nil => exact Or.inl rfl
  | cons x d => exact Or.inr ⟨_, rfl⟩

namespace Charset

theorem encode_bracket (c : Charset) (t : Text) : c.encode ('[' :: t) = 0x5B :: c.encode t := by
  cases c <;> rfl

theorem ofMark?_bracket (bs : Bytes) : ofMark? (0x5B :: bs) = none := rfl

end Charset

namespace Editor

variable {e e' : Editor}

/-- The second editor reads what the first one writes: both in UTF-8, which is meant if no charset
is given, or both in windows-1252 if all characters are among those of its bytes. -/
inductive IsReadBy (e e' : Editor) : Prop
  | utf8 (h : e.charset = .utf8) (h' : e'.charset = .utf8)
  | windows1252 (h : e.charset = .windows1252) (h' : e'.charset = .windows1252)
      (hc : ∀ c ∈ e.render, ∃ b, Windows1252.decodeByte b = c)

/-- No byte order mark is found in the bytes of the content. -/
theorem ofMark?_renderBytes (e : Editor) : Charset.ofMark? e.renderBytes = none := by
  have hbytes : e.renderBytes = e.charset.encode e.render := rfl
  have hrender : e.render = [] ∨ ∃ t, e.render = '[' :: t := by
    unfold render
    split
    · exact e.document.render_eq_nil_or_bracket
    · exact Or.inl rfl
  rcases hrender with hnil | ⟨t, ht⟩
  · rw [hbytes, hnil]
    cases e.charset <;> rfl
  · rw [hbytes, ht, Charset.encode_bracket]
    exact Charset.ofMark?_bracket _

theorem decode_renderBytes (h : e.IsReadBy e') : e'.charset.decode e.renderBytes = e.render := by
  rw [Charset.decode_of_ofMark?_eq_none e.ofMark?_renderBytes,
    show e.renderBytes = e.charset.encode e.render from rfl]
  cases h with
  | utf8 h h' =>
    rw [h, h']
    exact Utf8.run_encode e.render
  | windows1252 h h' hc =>
    rw [h, h']
    exact Windows1252.run_encode hc

end Editor

namespace Workspace

/-- A file in which content was saved is read as the text that the reader's charset makes of the
bytes of the content. -/
theorem run_parseFile_of_writeFile {w : Workspace} {e : Editor} {file : Text} {answer : Answer}
    (hw : (w.run (.writeFile file)).1 = .ok answer) :
    ({ (w.run (.writeFile file)).2 with editor := e } : Workspace).run (.parseFile file) =
      ({ (w.run (.writeFile file)).2 with editor := e } : Workspace).run
        (.parse (e.charset.decode w.editor.renderBytes)) := by
  let s : Step := ⟨{ (w.run (.writeFile file)).2 with editor := e }, .parseFile file⟩
  apply Step.run_eq_of_text (s := s)
  have hread : s.before.folder.read file = .ok w.editor.renderBytes := read_of_writeFile hw
  change (s.before.folder.read file).toOption.map e.charset.decode = _
  rw [hread]
  rfl

/-- **Reading a file in which content was saved is reading the text of the content.** The file is
read as that text, and nothing at its start is taken for a byte order mark. -/
theorem parseFile_of_writeFile {w : Workspace} {e : Editor} {file : Text} {answer : Answer}
    (h : w.editor.IsReadBy e) (hw : (w.run (.writeFile file)).1 = .ok answer) :
    ({ (w.run (.writeFile file)).2 with editor := e } : Workspace).run (.parseFile file) =
        ({ (w.run (.writeFile file)).2 with editor := e } : Workspace).run
          (.parse w.editor.render) ∧
      e.charset.decode w.editor.renderBytes = w.editor.render ∧
      Charset.ofMark? w.editor.renderBytes = none := by
  refine ⟨?_, Editor.decode_renderBytes h, w.editor.ofMark?_renderBytes⟩
  rw [run_parseFile_of_writeFile hw, Editor.decode_renderBytes h]

/-- What would be a mark before all other bytes is a part of the name after the bracket. The editor
that reads the file leaves a section out. -/
theorem parseFile_of_writeFile_windows1252 :
    let o : Options := { charset? := some .windows1252 }
    let commands : List Command := [.parse "[\u00FF\u00FE]\nx = \u20AC\n[b]\ny = 2\n".toList]
    let w := ((Workspace.new o []).runAll commands).2
    let e := Editor.new { o with excluded := ["b".toList] }
    let w' : Workspace := { (w.run (.writeFile "x.ini".toList)).2 with editor := e }
    w.editor.IsReadBy e ∧
      (w.run (.writeFile "x.ini".toList)).1 = .ok (.bytes w.editor.renderBytes) ∧
      (w'.run (.parseFile "x.ini".toList)).1 = .ok .nothing ∧
      (w'.run (.parseFile "x.ini".toList)).2.editor.document =
        [("\u00FF\u00FE".toList, [⟨"x".toList, "\u20AC".toList⟩])] := by
  intro o commands w e w'
  have hbytes : w.editor.render.all fun c =>
      Windows1252.decodeByte ((Windows1252.encodeChar? c).getD 0) == c := by
    decide
  have hread : w.editor.IsReadBy e := by
    refine .windows1252 rfl rfl ?_
    intro c hc
    exact ⟨_, eq_of_beq (List.all_eq_true.1 hbytes c hc)⟩
  have hwrite : (w.run (.writeFile "x.ini".toList)).1 = .ok (.bytes w.editor.renderBytes) := by
    decide
  have hrun : w'.run (.parseFile "x.ini".toList) = w'.run (.parse w.editor.render) :=
    (parseFile_of_writeFile hread hwrite).1
  rw [hrun]
  exact ⟨hread, hwrite, by decide, by decide⟩

end Workspace

end IniConfig
