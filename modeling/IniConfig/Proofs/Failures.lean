import IniConfig.Proofs.JoinedTexts
import IniConfig.Proofs.LineByLine
import IniConfig.Proofs.ReadDocuments

/-!
# What a text with a fault leaves

An entry outside of sections is a fault at its own line. A section whose name is there already is
one that was opened long before it is refused; but from its header on, nothing is added to the
document, since one section is open at most (`OpenedBy`). So in both cases the sections that are
left are those of the lines before one line, read alone (`ClosesTo`), and what stands behind the
text is of no account (`ofLines_append_of_fault`).
-/

namespace IniConfig

namespace Parsed

open Progress

variable {o : Options} {p q r : Progress} {lines more before : List Line} {line : Line}
  {name : Text} {fault : Fault} {d : Document} {n : Nat}

theorem ofLines_append_of_fault (h : (ofLines o lines).fault? = some fault) (more : List Line) :
    ofLines o (lines ++ more) = ofLines o lines := by
  obtain ⟨before, after, q, rfl, hq, hfail⟩ := exists_failsAt h
  rw [ofLines, ofLines, List.append_assoc, hq.ofLinesFrom_append, hq.ofLinesFrom_append,
    hfail.ofLinesFrom_append, hfail.ofLinesFrom_eq]

/-! ## The lines before a fault -/

/-- Blank lines behind them make no difference. -/
theorem ClosesTo.ofLines_append_blank (h : ClosesTo o lines d) (blanks : Nat) :
    ofLines o (lines ++ List.replicate blanks .skipped) = ⟨d, d.names, none⟩ := by
  obtain ⟨p, q, hp, hclose, rfl⟩ := h
  have haligned : q.Aligned := (hp.aligned rfl).close hclose
  have hblank : ∀ n, ofLinesFrom o n p (List.replicate blanks .skipped) = q.stop none := by
    induction blanks with
    | zero => intro n; simp [ofLinesFrom, hclose]
    | succ blanks ih =>
      intro n
      rw [List.replicate_succ, Passes.skipped.ofLinesFrom_cons]
      exact ih (n + 1)
  rw [ofLines, hp.ofLinesFrom_append, hblank, stop_eq haligned]

/-- The open section was opened by a header among the lines, and nothing has been added since. -/
def OpenedBy (o : Options) (lines : List Line) (p : Progress) : Prop :=
  ∀ name s, p.open? = some (name, s) →
    ∃ before after, lines = before ++ .header name :: after ∧ ClosesTo o before p.done

theorem OpenedBy.concat (h : OpenedBy o lines p) (line : Line)
    (hopen : ∀ name s, q.open? = some (name, s) → ∃ s', p.open? = some (name, s'))
    (hdone : q.done = p.done) : OpenedBy o (lines ++ [line]) q := by
  intro name s hq
  obtain ⟨s', hp⟩ := hopen name s hq
  obtain ⟨before, after, rfl, hbefore⟩ := h name s' hp
  exact ⟨before, after ++ [line], by simp, hdone ▸ hbefore⟩

/-- An entry that is added keeps the section open that was. -/
theorem open?_push {s : Section} (e : Entry) (h : (p.push e).open? = some (name, s)) :
    ∃ s', p.open? = some (name, s') := by
  cases ho : p.open? with
  | none => simp [push, ho] at h
  | some x =>
    obtain ⟨opened, s'⟩ := x
    obtain ⟨rfl, -⟩ : opened = name ∧ s' ++ [e] = s := by simpa [push, ho] using h
    exact ⟨s', rfl⟩

theorem openedBy_of_passesAll (h : PassesAll o {} lines p) : OpenedBy o lines p := by
  induction h with
  | nil => intro name s h; cases h
  | @concat lines line p q hlines hline ih =>
    cases hline with
    | entry => exact ih.concat _ (fun _ _ => open?_push _) rfl
    | bare => exact ih.concat _ (fun _ _ => open?_push _) rfl
    | @header opened r hclose =>
      intro name s ho
      obtain ⟨-, rfl, -⟩ : ¬ opened = [] ∧ opened = name ∧ [] = s := by
        simpa [Progress.opened] using ho
      exact ⟨lines, [], rfl, p, r, hlines, hclose, rfl⟩
    | _ => exact ih.concat _ (fun _ s ho => ⟨s, ho⟩) rfl

theorem exists_entry_of_fault
    (h : (ofLines o lines).fault? = some (.entryOutsideSection n)) :
    ∃ before key value after, lines = before ++ .entry key value :: after ∧
      n = before.length + 1 ∧ ClosesTo o before (ofLines o lines).document := by
  obtain ⟨before, after, q, rfl, hq, hfail⟩ := exists_failsAt h
  have hstop := hfail.ofLinesFrom_eq (o := o)
  cases hfail with
  | @outside key value rest hd ho =>
    refine ⟨before, key, value, rest, rfl, Nat.add_comm .., q, q, hq,
      close_of_open?_eq_none ho, ?_⟩
    rw [ofLines, hq.ofLinesFrom_append, hstop]
    rfl
  | duplicate hc =>
    obtain ⟨name, s, -, -, -, hfault⟩ := close_eq_error_iff.1 hc
    cases hfault

theorem exists_header_of_fault
    (h : (ofLines o lines).fault? = some (.duplicateSection name)) :
    name ∈ (ofLines o lines).document.names ∧
      ∃ before after, lines = before ++ .header name :: after ∧
        ClosesTo o before (ofLines o lines).document := by
  obtain ⟨before, after, q, rfl, hq, hfail⟩ := exists_failsAt h
  have hdone : (ofLines o (before ++ after)).document = q.done := by
    rw [ofLines, hq.ofLinesFrom_append, hfail.ofLinesFrom_eq]
    rfl
  cases hfail with
  | duplicate hc =>
    obtain ⟨opened, s, ho, -, hthere, hfault⟩ := close_eq_error_iff.1 hc
    obtain rfl := Fault.duplicateSection.inj hfault
    obtain ⟨first, rest, rfl, hfirst⟩ := openedBy_of_passesAll hq name s ho
    rw [hdone]
    exact ⟨hthere, first, rest ++ after, by simp, hfirst⟩

end Parsed

/-! ## Texts with a fault -/

namespace Editor

variable {e : Editor} {t u : Text} {fault : Fault} {d : Document} {size : Nat}

/-- The first lines of the text, read alone, are read without fault and leave this document. Blank
lines behind them, three at most, see to it that they are still cut at line feeds. -/
def ReadsFirst (e : Editor) (t : Text) (size : Nat) (d : Document) : Prop :=
  ∀ blanks, 3 ≤ blanks ∨ (t.beginning size blanks).delimiter = '\n' →
    (e.parse (t.beginning size blanks)).1 = .ok .nothing ∧
      (e.parse (t.beginning size blanks)).2.document = d

/-- How a text with a fault leaves an editor. -/
structure FailsOn (e : Editor) (t : Text) (fault : Fault) : Prop where
  /-- What stands behind the text changes neither the fault nor what is left. -/
  behind : ∀ u, (e.parse (t ++ '\n' :: u)).1 = .error fault ∧
    (e.parse (t ++ '\n' :: u)).2.document = (e.parse t).2.document
  /-- An entry outside of sections is found at its line, and the lines before it are left. -/
  outside : ∀ n, fault = .entryOutsideSection n → 1 ≤ n ∧ n ≤ t.lines.length ∧
    (∃ l key value, t.lines[n - 1]? = some l ∧ Line.classify l = .entry key value) ∧
    e.ReadsFirst t (n - 1) (e.parse t).2.document
  /-- A second section is one that is left, and so are the lines before one of its headers. -/
  duplicate : ∀ name, fault = .duplicateSection name → name ∈ (e.parse t).2.document.names ∧
    ∃ m, t.lines[m]? = some (Section.header name) ∧
      Line.classify (Section.header name) = .header name ∧
      e.ReadsFirst t m (e.parse t).2.document
  not_parsed : (e.parse t).2.parsed = false
  readNames_eq : (e.parse t).2.readNames = (e.parse t).2.document.names
  vacant : (e.parse t).2.content.snapshot.name? = none
  current : (e.parse t).2.current? = e.current?

theorem readsFirst_of_closesTo (ho : e.options.prepare? = none) (ht : t.delimiter = '\n')
    (h : Parsed.ClosesTo e.options ((t.lines.take size).map Line.classify) d) :
    e.ReadsFirst t size d := by
  intro blanks hblanks
  have hd : (t.beginning size blanks).delimiter = '\n' :=
    hblanks.elim Text.delimiter_beginning id
  have hempty : Line.classify [] = .skipped := rfl
  have hread : Parsed.ofText e.options (t.beginning size blanks) = ⟨d, d.names, none⟩ := by
    rw [Parsed.ofText_of_prepare?_eq_none ho, Text.lines_beginning ht hd, List.map_append,
      List.map_replicate, hempty]
    exact h.ofLines_append_blank blanks
  rw [parse_fst_eq_ok_iff, document_parse, hread]
  exact ⟨rfl, rfl⟩

/-- A place among what the lines say is a place among the lines. -/
theorem exists_line_of_map_eq {ls : List Text} {before after : List Line} {line : Line}
    (h : ls.map Line.classify = before ++ line :: after) :
    ∃ l, ls[before.length]? = some l ∧ Line.classify l = line ∧
      (ls.take before.length).map Line.classify = before := by
  obtain ⟨first, rest, rfl, rfl, hrest⟩ := List.map_eq_append_iff.1 h
  obtain ⟨l, rest, rfl, rfl, rfl⟩ := List.map_eq_cons_iff.1 hrest
  exact ⟨l, by simp, rfl, by simp⟩

/-- **A text with a fault leaves the sections that were complete before it, and stays one with the
same fault whatever comes behind it.** -/
theorem failsOn_of_parse_eq_error (ho : e.options.prepare? = none) (ht : 2 ≤ t.count '\n')
    (hf : (e.parse t).1 = .error fault) : e.FailsOn t fault := by
  have hlf : t.delimiter = '\n' := Text.delimiter_eq_lf_iff.2 ht
  have htext := Parsed.ofText_of_prepare?_eq_none ho
  have hfault := parse_fst_eq_error_iff.1 hf
  have hdocument := document_parse e t
  rw [htext] at hfault hdocument
  constructor
  case behind =>
    intro u
    rw [parse_fst_eq_error_iff, hdocument, document_parse, htext, Text.lines_append ht,
      List.map_append, Parsed.ofLines_append_of_fault hfault]
    exact ⟨hfault, rfl⟩
  case outside =>
    rintro n rfl
    obtain ⟨before, key, value, after, hlines, rfl, hbefore⟩ :=
      Parsed.exists_entry_of_fault hfault
    obtain ⟨l, hl, hclassify, htake⟩ := exists_line_of_map_eq hlines
    refine ⟨by omega, (List.getElem?_eq_some_iff.1 hl).1, ⟨l, key, value, hl, hclassify⟩, ?_⟩
    apply readsFirst_of_closesTo ho hlf
    rwa [Nat.add_sub_cancel, htake, hdocument]
  case duplicate =>
    rintro name rfl
    obtain ⟨hthere, before, after, hlines, hbefore⟩ := Parsed.exists_header_of_fault hfault
    obtain ⟨l, hl, hclassify, htake⟩ := exists_line_of_map_eq hlines
    obtain rfl := (classify_header_iff.1 hclassify).1
    rw [← hdocument] at hthere
    refine ⟨hthere, before.length, hl, hclassify, ?_⟩
    apply readsFirst_of_closesTo ho hlf
    rwa [htake, hdocument]
  case not_parsed => rw [parsed_parse, htext, hfault]; rfl
  case readNames_eq => exact readNames_parse e t
  case vacant => rw [snapshot_parse]; rfl
  case current => exact current?_parse e t

end Editor

/-- An entry behind `[]` and a section that comes twice are faults, each with the lines before it
left. -/
theorem failsOn_outside_and_twice :
    let e := Editor.new {}
    let outside : Text := "[a]\nx = 1\n[]\ny = 2\n".toList
    let twice : Text := "[a]\nx = 1\n[a]\ny = 2\n".toList
    (e.parse outside).1 = .error (.entryOutsideSection 4) ∧
      e.FailsOn outside (.entryOutsideSection 4) ∧
      (e.parse "[a]\nx = 1\n[]\n".toList).1 = .ok .nothing ∧
      (e.parse twice).1 = .error (.duplicateSection "a".toList) ∧
      e.FailsOn twice (.duplicateSection "a".toList) := by
  intro e outside twice
  have houtside : (e.parse outside).1 = .error (.entryOutsideSection 4) := rfl
  have htwice : (e.parse twice).1 = .error (.duplicateSection "a".toList) := rfl
  have hfails := Editor.failsOn_of_parse_eq_error rfl (by decide) houtside
  have hfailsTwice := Editor.failsOn_of_parse_eq_error rfl (by decide) htwice
  have hfirst : e.ReadsFirst outside 3 (e.parse outside).2.document :=
    (hfails.outside 4 rfl).2.2.2
  exact ⟨houtside, hfails, (hfirst 1 (Or.inr rfl)).1, htwice, hfailsTwice⟩

end IniConfig
