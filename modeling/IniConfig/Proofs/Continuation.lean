import IniConfig.Proofs.JoinedTexts
import IniConfig.Proofs.LineByLine
import Mathlib.Data.List.Basic

/-!
# A text behind a text

A header closes the section that is open and leaves nothing else of the lines before it but the
document. So a text that begins with a header is read behind another as it is read alone, with the
document of the other in front (`Progress.behind`): the same sections are closed at the same lines,
up to the first whose name the other text has given already (`Behind`). Names of sections to be kept
are left aside here, since with them the reading may end early in one case and not in the other.
-/

namespace IniConfig

/-- The same fault with so many lines in front. -/
def Fault.delayed (size : Nat) : Fault → Fault
  | entryOutsideSection line => entryOutsideSection (line + size)
  | fault => fault

namespace Parsed

/-- What comes of a text behind a document and so many lines, if it gives `alone` on its own. -/
inductive Behind (d : Document) (size : Nat) (alone result : Parsed) : Prop
  | apart (hnew : d.names.Disjoint alone.document.names)
      (hfault : result.fault? = alone.fault?.map (·.delayed size))
      (hdocument : result.document = d ++ alone.document)
  | clash {before after : Document} {x : Text × Section}
      (halone : alone.document = before ++ x :: after)
      (hnew : d.names.Disjoint before.names) (hx : x.1 ∈ d.names)
      (hfault : result.fault? = some (.duplicateSection x.1))
      (hdocument : result.document = d ++ before)

namespace Progress

variable {o : Options} {p q : Progress} {d : Document} {n size : Nat} {lines rest : List Line}
  {line : Line} {name : Text}

/-- The same progress with a document in front. -/
def behind (d : Document) (p : Progress) : Progress :=
  { p with done := d ++ p.done, read := d.names ++ p.read }

/-- The open section is refused or closed as it is alone, or its name stands in the document in
front. -/
theorem close_behind (hnew : d.names.Disjoint p.done.names) :
    (∃ taken, p.close = .error (.duplicateSection taken) ∧
        (p.behind d).close = .error (.duplicateSection taken)) ∨
      (∃ q, p.close = .ok q ∧ (p.behind d).close = .ok (q.behind d) ∧
        d.names.Disjoint q.done.names) ∨
      ∃ q x, p.close = .ok q ∧ q.done = p.done ++ [x] ∧ x.1 ∈ d.names ∧
        (p.behind d).close = .error (.duplicateSection x.1) := by
  cases hc : p.close with
  | error fault =>
    obtain ⟨taken, s, ho, hs, hthere, rfl⟩ := close_eq_error_iff.1 hc
    refine Or.inl ⟨taken, rfl, close_eq_error_iff.2 ⟨taken, s, ho, hs, ?_, rfl⟩⟩
    rw [behind, Document.names_append]
    exact List.mem_append_right _ hthere
  | ok q =>
    right
    rcases close_eq_ok_iff.1 hc with ⟨hempty, rfl⟩ | ⟨name, s, ho, hs, hname, rfl⟩
    · exact Or.inl ⟨_, rfl, close_eq_ok_iff.2 (Or.inl ⟨hempty, rfl⟩), hnew⟩
    · by_cases hd : name ∈ d.names
      · refine Or.inr ⟨_, (name, s), rfl, rfl, hd, close_eq_error_iff.2 ⟨name, s, ho, hs, ?_, rfl⟩⟩
        rw [behind, Document.names_append]
        exact List.mem_append_left _ hd
      · refine Or.inl ⟨_, rfl, close_eq_ok_iff.2 (Or.inr ⟨name, s, ho, hs, ?_, ?_⟩), ?_⟩
        · rw [behind, Document.names_append, List.mem_append, not_or]
          exact ⟨hd, hname⟩
        · simp [behind]
        · rw [Document.names_append, List.disjoint_append_right]
          exact ⟨hnew, List.disjoint_singleton.2 hd⟩

/-- A line that is passed in both cases decides nothing. -/
theorem behind_cons (hp : Passes o p line q) (hb : Passes o (p.behind d) line (q.behind d))
    (hrest : Behind d size (ofLinesFrom o (n + 1) q rest)
      (ofLinesFrom o (n + 1 + size) (q.behind d) rest)) :
    Behind d size (ofLinesFrom o n p (line :: rest))
      (ofLinesFrom o (n + size) (p.behind d) (line :: rest)) := by
  rw [hp.ofLinesFrom_cons, hb.ofLinesFrom_cons, Nat.add_right_comm]
  exact hrest

/-- Lines are read behind a document as they are read alone. -/
theorem ofLinesFrom_behind (hi : o.included = [])
    (hnew : d.names.Disjoint p.done.names) :
    Behind d size (ofLinesFrom o n p lines) (ofLinesFrom o (n + size) (p.behind d) lines) := by
  induction lines generalizing n p with
  | nil =>
    rw [ofLinesFrom, ofLinesFrom]
    rcases close_behind hnew with ⟨taken, hp, hb⟩ | ⟨q, hp, hb, hq⟩ | ⟨q, x, hp, hx, hd, hb⟩
    · rw [hp, hb]
      exact .apart hnew rfl rfl
    · rw [hp, hb]
      exact .apart hq rfl rfl
    · rw [hp, hb]
      exact .clash hx hnew hd rfl rfl
  | cons line rest ih =>
    have hgo := isComplete_of_included_eq_nil hi
    rcases passes_or_halts o n p line with ⟨q, hpass⟩ | ⟨result, hhalt⟩
    · cases hpass with
      | skipped => exact behind_cons .skipped .skipped (ih hnew)
      | dropped hd => exact behind_cons (.dropped hd) (.dropped hd) (ih hnew)
      | entry hd ho => exact behind_cons (.entry hd ho) (.entry hd ho) (ih hnew)
      | lost hb => exact behind_cons (.lost hb) (.lost hb) (ih hnew)
      | bare hb => exact behind_cons (.bare hb) (.bare hb) (ih hnew)
      | @header name _ hc =>
        rcases close_behind hnew with ⟨taken, hp, hb⟩ | ⟨q, hp, hb, hq⟩ | ⟨q, x, hp, hx, hd, hb⟩
        · rw [hc] at hp; cases hp
        · obtain rfl := Except.ok.inj (hc.symm.trans hp)
          exact behind_cons (.header hp (hgo _)) (.header hb (hgo _)) (ih hq)
        · -- alone, the section joins the document here; behind `d`, it is refused
          rw [(Passes.header hp (hgo _)).ofLinesFrom_cons, (Halts.refused hb).ofLinesFrom_cons]
          obtain ⟨after, hafter⟩ := done_prefix_ofLinesFrom o (n + 1) (q.opened o name) rest
          have halone : (ofLinesFrom o (n + 1) (q.opened o name) rest).document =
              p.done ++ x :: after := by
            rw [← hafter, List.append_cons, ← hx]
            rfl
          exact .clash halone hnew hd rfl rfl
    · rw [hhalt.ofLinesFrom_cons]
      cases hhalt with
      | outside hd ho =>
        rw [(Halts.outside (p := p.behind d) hd ho).ofLinesFrom_cons]
        exact .apart hnew rfl rfl
      | refused hc =>
        rcases close_behind hnew with ⟨taken, hp, hb⟩ | ⟨q, hp, -⟩ | ⟨q, x, hp, -⟩
        · rw [Except.error.inj (hc.symm.trans hp), (Halts.refused hb).ofLinesFrom_cons]
          exact .apart hnew rfl rfl
        · rw [hc] at hp; cases hp
        · rw [hc] at hp; cases hp
      | complete hc hi => rw [hgo] at hi; cases hi

/-- Behind a section that is closed, a header opens what it opens at the beginning. -/
theorem opened_eq_behind (hp : p.Aligned) (name : Text) :
    p.opened o name = (({} : Progress).opened o name).behind p.done := by
  simp [opened, behind, show p.read = p.done.names from hp]

end Progress

open Progress

variable {o : Options} {lines : List Line}

/-- Lines that begin with a header are read behind others as they are read alone. -/
theorem ofLines_append (hi : o.included = []) (hread : (ofLines o lines).fault? = none)
    (name : Text) (rest : List Line) :
    Behind (ofLines o lines).document lines.length (ofLines o (.header name :: rest))
      (ofLines o (lines ++ .header name :: rest)) := by
  obtain ⟨p, q, hp, hclose, hdone⟩ := closesTo_of_fault?_eq_none hi hread
  have hq : q.Aligned := (hp.aligned rfl).close hclose
  have hgo := isComplete_of_included_eq_nil hi
  have hnone : ({} : Progress).close = .ok {} := rfl
  rw [← hdone, ofLines, ofLines, hp.ofLinesFrom_append,
    (Passes.header hclose (hgo _)).ofLinesFrom_cons,
    (Passes.header hnone (hgo _)).ofLinesFrom_cons, opened_eq_behind hq, Nat.add_right_comm]
  exact ofLinesFrom_behind hi (List.disjoint_nil_right _)

theorem ofText_append {t u name : Text} (ho : o.prepare? = none) (hi : o.included = [])
    (ht : 2 ≤ t.count '\n') (hu : 2 ≤ u.count '\n')
    (hfirst : u.lines.head?.map Line.classify = some (.header name))
    (hread : (ofText o t).fault? = none) :
    Behind (ofText o t).document t.lines.length (ofText o u) (ofText o (t ++ '\n' :: u)) := by
  obtain ⟨rest, hrest⟩ : ∃ rest, u.lines.map Line.classify = .header name :: rest := by
    rw [← List.head?_eq_some_iff, List.head?_map]
    exact hfirst
  have htext := ofText_of_prepare?_eq_none ho
  rw [htext] at hread
  have hbehind := ofLines_append hi hread name rest
  rw [List.length_map, ← hrest, ← List.map_append, ← Text.lines_append_lines ht hu] at hbehind
  rwa [htext, htext, htext]

end Parsed

/-- **A text that begins with a header is read behind another as it is read alone: if the two have
no name in common, with the same reply but for the number of the line, and with both documents one
behind the other; if they have, up to the first section whose name is there already.** -/
theorem Editor.parse_append {e : Editor} {t u name : Text} (ho : e.options.prepare? = none)
    (hi : e.options.included = []) (ht : 2 ≤ t.count '\n') (hu : 2 ≤ u.count '\n')
    (hfirst : u.lines.head?.map Line.classify = some (.header name))
    (hread : (e.parse t).1 = .ok .nothing) :
    let front := (e.parse t).2.document
    let alone := (Editor.new e.options).parse u
    let both := e.parse (t ++ '\n' :: u)
    (front.names.Disjoint alone.2.document.names →
        both.1 = alone.1.mapError (·.delayed t.lines.length) ∧
          both.2.document = front ++ alone.2.document) ∧
      (¬ front.names.Disjoint alone.2.document.names →
        ∃ before x after, alone.2.document = before ++ x :: after ∧
          front.names.Disjoint before.names ∧ x.1 ∈ front.names ∧
          both.1 = .error (.duplicateSection x.1) ∧ both.2.document = front ++ before) := by
  intro front alone both
  have hfront : front = (Parsed.ofText e.options t).document := document_parse _ _
  have halone : alone.2.document = (Parsed.ofText e.options u).document := document_parse _ _
  have hboth : both.2.document = (Parsed.ofText e.options (t ++ '\n' :: u)).document :=
    document_parse _ _
  have hbehind := Parsed.ofText_append ho hi ht hu hfirst (parse_fst_eq_ok_iff.1 hread)
  rw [← hfront] at hbehind
  rw [halone, hboth]
  cases hbehind with
  | apart hnew hfault hdocument =>
    refine ⟨fun _ => ⟨?_, hdocument⟩, fun hcommon => absurd hnew hcommon⟩
    rw [fst_parse, fst_parse]
    exact Parsed.reply_eq_mapError hfault
  | @clash before after x hfirst hnew hx hfault hdocument =>
    constructor
    · intro hdisjoint
      refine absurd ?_ (hdisjoint hx)
      rw [hfirst, Document.names_append]
      exact List.mem_append_right _ List.mem_cons_self
    · intro _
      exact ⟨before, x, after, hfirst, hnew, hx, parse_fst_eq_error_iff.2 hfault, hdocument⟩

/-- Behind the three lines of the first text, the fault of the fourth line is one of the seventh,
unless a section `a` comes before it. -/
theorem parse_append_three_lines :
    let e := Editor.new {}
    let t : Text := "[a]\nx = 1\n".toList
    let u : Text := "[b]\ny = 2\n[]\nz = 3".toList
    let v : Text := "[b]\ny = 2\n[a]\nx = 2\n[]\nz = 3".toList
    (e.parse (t ++ '\n' :: u)).1 = .error (.entryOutsideSection 7) ∧
      (e.parse (t ++ '\n' :: u)).2.document =
        [("a".toList, [⟨"x".toList, "1".toList⟩]), ("b".toList, [⟨"y".toList, "2".toList⟩])] ∧
      (e.parse (t ++ '\n' :: v)).1 = .error (.duplicateSection "a".toList) := by
  intro e t u v
  have hread : (e.parse t).1 = .ok .nothing := rfl
  have hu : u.lines.head?.map Line.classify = some (.header "b".toList) := rfl
  have hv : v.lines.head?.map Line.classify = some (.header "b".toList) := rfl
  obtain ⟨hapart, -⟩ := e.parse_append rfl rfl (by decide) (by decide) hu hread
  obtain ⟨-, hclash⟩ := e.parse_append rfl rfl (by decide) (by decide) hv hread
  obtain ⟨hfault, hdocument⟩ := hapart (List.disjoint_iff_ne.2 (by decide))
  obtain ⟨before, x, after, -, -, hx, htwice, -⟩ :=
    hclash fun hdisjoint => absurd (List.disjoint_iff_ne.1 hdisjoint) (by decide)
  have hx : x.1 ∈ ["a".toList] := hx
  rw [List.mem_singleton.1 hx] at htwice
  exact ⟨hfault, hdocument, htwice⟩

end IniConfig
