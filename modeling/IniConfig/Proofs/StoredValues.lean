import IniConfig.Proofs.HiddenContent
import IniConfig.Proofs.SeparatedLists

/-!
# Values that are read again

An entry is added at the end of its section, and the first entry of a key is the one that is read.
So a value is read again if the section lacked its key, and what is read is what the text of the
value says (`Workspace.exists_askAfter_add`); whether that is the value is a matter of its text
alone. Texts come back from a list if its separator keeps them apart
(`Workspace.askAfter_texts_iff`), and integers come back from any separator that cannot be a part of
one (`Workspace.askAfter_integers`).
-/

namespace IniConfig

/-- Whether the section of this name has an entry with this key; a missing section has none. -/
def Document.hasKey (d : Document) (name key : Text) : Bool :=
  ((d.find? name).getD []).hasKey key

/-- A key is read from its only entry. -/
theorem Query.valueOf_concat {s : Section} {key : Text} (h : s.hasKey key = false) (value : Text) :
    valueOf (s ++ [⟨key, value⟩]) key = value := by
  have hnone : s.find? (·.key = key) = none := by
    rw [List.find?_eq_none]
    exact List.any_eq_false.1 h
  rw [valueOf, Section.value?, List.find?_append, hnone]
  simp

/-- The section that an entry was added to is found with the entry at its end. -/
theorem Editor.fetch_after_add {e : Editor} {a : Address} {name : Text} (h : e.content.Sound)
    (ha : e.resolve a = some name) (key : Text) (payload : Payload) :
    ((e.edit a (.add key payload)).2.fetch name).1 =
      some ((e.document.find? name).getD [] ++ [⟨key, payload.write⟩]) := by
  rw [fetch_eq (sound_edit h a _), if_pos (parsed_edit_add ha key payload),
    document_edit_add ha key payload, Document.find?_append_entry, if_pos rfl]

namespace Workspace

variable {w : Workspace} {name key separator : Text}

/-- The reply to a question about a section that is asked after a change to the section. -/
def askAfter (w : Workspace) (name : Text) (change : Edit) (q : Query) : Reply :=
  ((w.run (.edit (.named name) change)).2.run (.ask (.named name) q)).1

/-- **The value of a key that the section lacked is read from the entry that is added.** -/
theorem exists_askAfter_add (h : w.editor.content.Sound)
    (hkey : w.editor.document.hasKey name key = false) (payload : Payload) :
    ∃ s : Section, Query.valueOf s key = payload.write ∧
      ∀ q : Query, w.askAfter name (.add key payload) q = .ok (q.answer s) := by
  have hfetch := Editor.fetch_after_add h (a := .named name) rfl key payload
  refine ⟨_, Query.valueOf_concat hkey payload.write, ?_⟩
  intro q
  have hask := Editor.ask_of_resolve (e := (w.editor.edit (.named name) (.add key payload)).2)
    (a := .named name) rfl q
  rw [hfetch] at hask
  exact congrArg (fun r => Except.ok r.1) hask

/-- **A list of texts is read as it was stored exactly if it is empty or its separator keeps the
texts apart**; and its beginning is read with it, filled up with empty texts. -/
theorem askAfter_texts_iff (o : Options) (f : Folder) (commands : List Command)
    (hkey : ((new o f).runAll commands).2.editor.document.hasKey name key = false)
    (hs : separator ≠ []) (xs : List Text) :
    (((new o f).runAll commands).2.askAfter name (.add key (.list separator (xs.map .text)))
        (.list key separator .text) = .ok (.values (xs.map .text)) ↔
      xs = [] ∨ Separated.IsSeparable separator xs) ∧
    (xs = [] ∨ Separated.IsSeparable separator xs → ∀ size,
      ((new o f).runAll commands).2.askAfter name (.add key (.list separator (xs.map .text)))
          (.array key separator .text size) =
        .ok (.values ((xs.take size ++ List.replicate (size - xs.length) []).map .text))) := by
  have hsound := sound_runAll (w := new o f) CachedDocument.sound_empty commands
  obtain ⟨s, hvalue, hask⟩ := exists_askAfter_add hsound hkey (.list separator (xs.map .text))
  have hread := Separated.read_write_texts_iff hs xs
  simp only [hask, Query.answer, hvalue, Payload.write]
  constructor
  · rw [← hread]
    constructor
    · intro h
      exact Answer.values.inj (Except.ok.inj h)
    · intro h
      rw [h]
  · intro h size
    rw [hread.2 h, Separated.firstOf_eq, List.map_append, List.map_take, List.map_replicate,
      List.length_map]
    rfl

/-- The `a` before the separator of two moves it forward; behind the separator it does not. -/
theorem askAfter_texts_overlapping :
    let commands : List Command := [.parse "[s]\nx = 1\n".toList, .enter "s".toList]
    let w := ((new {} []).runAll commands).2
    let store (xs : List Text) : Edit := .add "k".toList (.list "aa".toList (xs.map .text))
    let before : List Text := ["xa".toList, "b".toList]
    let behind : List Text := ["x".toList, [], "ab".toList]
    w.editor.document.hasKey "s".toList "k".toList = false ∧
      w.askAfter "s".toList (store before) (.list "k".toList "aa".toList .text) ≠
        .ok (.values (before.map .text)) ∧
      w.askAfter "s".toList (store behind) (.list "k".toList "aa".toList .text) =
        .ok (.values (behind.map .text)) ∧
      w.askAfter "s".toList (store behind) (.array "k".toList "aa".toList .text 4) =
        .ok (.values ((behind ++ [[]]).map .text)) := by
  intro commands w store before behind
  have hkey : w.editor.document.hasKey "s".toList "k".toList = false := by decide
  have hs : "aa".toList ≠ [] := by decide
  have hbehind : Separated.IsSeparable "aa".toList behind := by decide
  refine ⟨hkey, ?_, ?_, ?_⟩
  · intro h
    have hbefore := (askAfter_texts_iff {} [] commands hkey hs before).1.1 h
    exact absurd (hbefore.resolve_left (by decide)) (by decide)
  · exact (askAfter_texts_iff {} [] commands hkey hs behind).1.2 (Or.inr hbehind)
  · exact (askAfter_texts_iff {} [] commands hkey hs behind).2 (Or.inr hbehind) 4

/-- **Integers are read as they were stored by every type that holds them, and as zero by all
others**, from a list with a separator without digit and minus sign; and its beginning is read with
it, filled up with zeros. A single integer is read as it was stored. -/
theorem askAfter_integers (o : Options) (f : Folder) (commands : List Command)
    (hkey : ((new o f).runAll commands).2.editor.document.hasKey name key = false) :
    (∀ separator, separator ≠ [] → (∀ c ∈ separator, c.isDigit = false ∧ c ≠ '-') →
      ∀ (ns : List Int) (τ : IntegerType),
        ((new o f).runAll commands).2.askAfter name (.add key (.list separator (ns.map .integer)))
            (.list key separator (.integer τ)) =
          .ok (.values (ns.map fun n => .integer (if τ.holds n then n else 0))) ∧
        ∀ size,
          ((new o f).runAll commands).2.askAfter name
              (.add key (.list separator (ns.map .integer)))
              (.array key separator (.integer τ) size) =
            .ok (.values (((ns.map fun n => if τ.holds n then n else 0).take size ++
              List.replicate (size - ns.length) 0).map .integer))) ∧
    ∀ n : Int, (⟨true, 64⟩ : IntegerType).holds n →
      ((new o f).runAll commands).2.askAfter name (.add key (.one (.integer n))) (.long key) =
        .ok (.value (.integer n)) := by
  have hsound := sound_runAll (w := new o f) CachedDocument.sound_empty commands
  constructor
  · intro separator hs hfree ns τ
    obtain ⟨s, hvalue, hask⟩ :=
      exists_askAfter_add hsound hkey (.list separator (ns.map .integer))
    have hread := Separated.read_write_integers hs hfree τ ns
    simp only [hask, Query.answer, hvalue, Payload.write, hread]
    refine ⟨trivial, ?_⟩
    intro size
    rw [Separated.firstOf_eq, List.map_append, List.map_take, List.map_replicate, List.length_map,
      List.map_map]
    rfl
  · intro n hn
    obtain ⟨s, hvalue, hask⟩ := exists_askAfter_add hsound hkey (.one (.integer n))
    have hread := Separated.kind_read_write ⟨true, 64⟩ n
    rw [if_pos hn] at hread
    simp only [hask, Query.answer, hvalue]
    exact congrArg (fun v => Except.ok (Answer.value v)) hread

/-- A fault left the section. The separator is a plus sign, which an integer may be read with but is
never written with; only the last element is an octet. -/
theorem askAfter_integers_least :
    let commands : List Command := [.parse "[s]\nx = 1\n[]\ny = 2\n".toList]
    let w := ((new {} []).runAll commands).2
    let ns : List Int := [-9223372036854775808, 256, -1, 255]
    let store : Edit := .add "k".toList (.list "+".toList (ns.map .integer))
    let octets : Kind := .integer ⟨false, 8⟩
    w.editor.document.hasKey "s".toList "k".toList = false ∧
      w.askAfter "s".toList store (.list "k".toList "+".toList octets) =
        .ok (.values ([0, 0, 0, 255].map .integer)) ∧
      w.askAfter "s".toList store (.array "k".toList "+".toList octets 5) =
        .ok (.values ([0, 0, 0, 255, 0].map .integer)) ∧
      w.askAfter "s".toList (.add "k".toList (.one (.integer (-9223372036854775808))))
        (.long "k".toList) = .ok (.value (.integer (-9223372036854775808))) := by
  intro commands w ns store octets
  have hkey : w.editor.document.hasKey "s".toList "k".toList = false := by decide
  have hfree : ∀ c ∈ "+".toList, c.isDigit = false ∧ c ≠ '-' := by
    intro c hc
    obtain rfl : c = '+' := List.mem_singleton.1 hc
    decide
  have hlists := (askAfter_integers {} [] commands hkey).1 "+".toList (by decide) hfree ns
  refine ⟨hkey, (hlists ⟨false, 8⟩).1, (hlists ⟨false, 8⟩).2 5, ?_⟩
  exact (askAfter_integers {} [] commands hkey).2 _ (by decide)

end Workspace

end IniConfig
