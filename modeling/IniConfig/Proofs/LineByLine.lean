import IniConfig.Proofs.Blocks
import Mathlib.Data.List.Induction

/-!
# What one line does

A line is passed, and the reading goes on behind it with the progress that it leaves (`Passes`), or
the reading halts there (`Halts`). These are all the cases (`passes_or_halts`), so what every passed
line keeps holds wherever a reading of many lines has come to (`PassesAll`).

A fault is found in one of two ways: an entry comes where no section is open, or the open section
cannot be closed (`FailsAt`). The second shows only at the next header or at the end, but no line
up to there can take it back, and nothing behind it can change what is left
(`FailsAt.ofLinesFrom_append`).
-/

namespace IniConfig.Parsed

namespace Progress

variable {o : Options} {p q r : Progress} {n : Nat} {lines rest : List Line} {line : Line}
  {name : Text} {fault : Fault}

/-! ## Closing -/

theorem close_push_eq_error (hc : p.close = .error fault) (e : Entry) :
    (p.push e).close = .error fault := by
  obtain ⟨name, s, ho, -, hthere, rfl⟩ := close_eq_error_iff.1 hc
  exact close_eq_error_iff.2 ⟨name, s ++ [e], by simp [push, ho], by simp, hthere, rfl⟩

theorem done_prefix_close (h : p.close = .ok q) : p.done <+: q.done := by
  rcases close_eq_ok_iff.1 h with ⟨-, rfl⟩ | ⟨name, s, -, -, -, rfl⟩
  · exact List.prefix_rfl
  · exact List.prefix_append _ _

/-! ## One line -/

/-- The line is passed, and leaves this progress. -/
inductive Passes (o : Options) (p : Progress) : Line → Progress → Prop
  | skipped : Passes o p .skipped p
  | dropped {key value : Text} (hd : p.dropping = true) : Passes o p (.entry key value) p
  | entry {key value : Text} (hd : p.dropping = false) (ho : p.open?.isSome) :
      Passes o p (.entry key value) (p.push ⟨key, value⟩)
  | lost {text : Text} (hb : (o.keepBare && !p.dropping) = false) : Passes o p (.bare text) p
  | bare {text : Text} (hb : (o.keepBare && !p.dropping) = true) :
      Passes o p (.bare text) (p.push (.ofBare text))
  | header {name : Text} {q : Progress} (hc : p.close = .ok q) (hi : isComplete o q.read = false) :
      Passes o p (.header name) (q.opened o name)

/-- The reading ends at the line, which has this number, with this result. -/
inductive Halts (o : Options) (n : Nat) (p : Progress) : Line → Parsed → Prop
  | outside {key value : Text} (hd : p.dropping = false) (ho : p.open? = none) :
      Halts o n p (.entry key value) (p.stop (some (.entryOutsideSection n)))
  | refused {name : Text} {fault : Fault} (hc : p.close = .error fault) :
      Halts o n p (.header name) (p.stop (some fault))
  | complete {name : Text} {q : Progress} (hc : p.close = .ok q) (hi : isComplete o q.read = true) :
      Halts o n p (.header name) (q.stop none)

theorem passes_or_halts (o : Options) (n : Nat) (p : Progress) (line : Line) :
    (∃ q, Passes o p line q) ∨ ∃ result, Halts o n p line result := by
  cases line with
  | skipped => exact Or.inl ⟨p, .skipped⟩
  | entry key value =>
    cases hd : p.dropping with
    | true => exact Or.inl ⟨p, .dropped hd⟩
    | false =>
      cases ho : p.open? with
      | none => exact Or.inr ⟨_, .outside hd ho⟩
      | some s => exact Or.inl ⟨_, .entry hd (by rw [ho]; rfl)⟩
  | bare text =>
    cases hb : o.keepBare && !p.dropping with
    | false => exact Or.inl ⟨p, .lost hb⟩
    | true => exact Or.inl ⟨_, .bare hb⟩
  | header name =>
    cases hc : p.close with
    | error fault => exact Or.inr ⟨_, .refused hc⟩
    | ok q =>
      cases hi : isComplete o q.read with
      | false => exact Or.inl ⟨_, .header hc hi⟩
      | true => exact Or.inr ⟨_, .complete hc hi⟩

theorem Passes.ofLinesFrom_cons (h : Passes o p line q) (n : Nat) (rest : List Line) :
    ofLinesFrom o n p (line :: rest) = ofLinesFrom o (n + 1) q rest := by
  cases h with
  | skipped => rw [ofLinesFrom]
  | dropped hd => rw [ofLinesFrom, if_pos hd]
  | entry hd ho =>
    obtain ⟨s, hs⟩ := Option.isSome_iff_exists.1 ho
    simp [ofLinesFrom, hd, hs]
  | lost hb => simp [ofLinesFrom, hb]
  | bare hb => rw [ofLinesFrom, if_pos hb]
  | header hc hi => simp [ofLinesFrom, hc, hi]

theorem Halts.ofLinesFrom_cons {result : Parsed} (h : Halts o n p line result)
    (rest : List Line) : ofLinesFrom o n p (line :: rest) = result := by
  cases h with
  | outside hd ho => simp [ofLinesFrom, hd, ho]
  | refused hc => simp [ofLinesFrom, hc]
  | complete hc hi => simp [ofLinesFrom, hc, hi]

theorem Passes.done_prefix (h : Passes o p line q) : p.done <+: q.done := by
  cases h with
  | @header name r hc hi =>
    have hr : p.done <+: r.done := done_prefix_close hc
    exact hr
  | _ => exact List.prefix_rfl

theorem Passes.aligned (h : Passes o p line q) (hp : p.Aligned) : q.Aligned := by
  cases h with
  | @header name r hc hi =>
    have hr : r.Aligned := hp.close hc
    exact hr
  | _ => exact hp

/-! ## Many lines -/

/-- The lines are passed one after the other, and leave this progress. -/
inductive PassesAll (o : Options) (p : Progress) : List Line → Progress → Prop
  | nil : PassesAll o p [] p
  | concat {lines : List Line} {line : Line} {q r : Progress} (hlines : PassesAll o p lines q)
      (hline : Passes o q line r) : PassesAll o p (lines ++ [line]) r

theorem PassesAll.ofLinesFrom_append (h : PassesAll o p lines q) (n : Nat) (rest : List Line) :
    ofLinesFrom o n p (lines ++ rest) = ofLinesFrom o (n + lines.length) q rest := by
  induction h generalizing rest with
  | nil => rfl
  | concat _ hline ih =>
    rw [List.append_assoc, ih, List.singleton_append, hline.ofLinesFrom_cons, List.length_append,
      List.length_singleton, Nat.add_assoc]

/-- Behind lines that are all passed, the open section is closed. -/
theorem PassesAll.ofLinesFrom_eq (h : PassesAll o p lines q) (n : Nat) :
    ofLinesFrom o n p lines =
      match q.close with
      | .error fault => q.stop (some fault)
      | .ok r => r.stop none := by
  have hend := h.ofLinesFrom_append n []
  rw [List.append_nil] at hend
  exact hend

theorem PassesAll.done_prefix (h : PassesAll o p lines q) : p.done <+: q.done := by
  induction h with
  | nil => exact List.prefix_rfl
  | concat _ hline ih => exact ih.trans hline.done_prefix

theorem PassesAll.aligned (h : PassesAll o p lines q) (hp : p.Aligned) : q.Aligned := by
  induction h with
  | nil => exact hp
  | concat _ hline ih => exact hline.aligned ih

/-- The lines are all passed, or the reading halts at one of them. -/
theorem passesAll_or_halts (o : Options) (n : Nat) (p : Progress) (lines : List Line) :
    (∃ q, PassesAll o p lines q) ∨
      ∃ before line after q result, lines = before ++ line :: after ∧ PassesAll o p before q ∧
        Halts o (n + before.length) q line result := by
  induction lines using List.reverseRec with
  | nil => exact Or.inl ⟨p, .nil⟩
  | append_singleton lines line ih =>
    rcases ih with ⟨q, hq⟩ | ⟨before, last, after, q, result, rfl, hq, hhalt⟩
    · rcases passes_or_halts o (n + lines.length) q line with ⟨r, hr⟩ | ⟨result, hhalt⟩
      · exact Or.inl ⟨r, .concat hq hr⟩
      · exact Or.inr ⟨lines, line, [], q, result, rfl, hq, hhalt⟩
    · exact Or.inr ⟨before, last, after ++ [line], q, result, by simp, hq, hhalt⟩

/-- The sections that are done stay at the beginning of the document. -/
theorem done_prefix_ofLinesFrom (o : Options) (n : Nat) (p : Progress) (lines : List Line) :
    p.done <+: (ofLinesFrom o n p lines).document := by
  rcases passesAll_or_halts o n p lines with
    ⟨q, hq⟩ | ⟨before, line, after, q, result, rfl, hq, hhalt⟩
  · refine hq.done_prefix.trans ?_
    rw [hq.ofLinesFrom_eq]
    cases hc : q.close with
    | error fault => exact List.prefix_rfl
    | ok r => exact done_prefix_close hc
  · refine hq.done_prefix.trans ?_
    rw [hq.ofLinesFrom_append, hhalt.ofLinesFrom_cons]
    cases hhalt with
    | outside => exact List.prefix_rfl
    | refused => exact List.prefix_rfl
    | complete hc => exact done_prefix_close hc

/-! ## Faults -/

/-- There is a fault before these lines, the first of which has this number. -/
inductive FailsAt (n : Nat) (p : Progress) : List Line → Fault → Prop
  | outside {key value : Text} {rest : List Line} (hd : p.dropping = false) (ho : p.open? = none) :
      FailsAt n p (.entry key value :: rest) (.entryOutsideSection n)
  | duplicate {lines : List Line} {fault : Fault} (hc : p.close = .error fault) :
      FailsAt n p lines fault

/-- A section that cannot be closed cannot be closed later. -/
theorem ofLinesFrom_of_close_eq_error (hc : p.close = .error fault) (n : Nat)
    (lines : List Line) : ofLinesFrom o n p lines = p.stop (some fault) := by
  induction lines generalizing n p with
  | nil => rw [ofLinesFrom, hc]
  | cons line rest ih =>
    rcases passes_or_halts o n p line with ⟨q, hq⟩ | ⟨result, hresult⟩
    · rw [hq.ofLinesFrom_cons]
      cases hq with
      | entry => exact ih (close_push_eq_error hc _) (n + 1)
      | bare => exact ih (close_push_eq_error hc _) (n + 1)
      | header hok => rw [hc] at hok; cases hok
      | _ => exact ih hc (n + 1)
    · rw [hresult.ofLinesFrom_cons]
      cases hresult with
      | outside _ ho => rw [close_of_open?_eq_none ho] at hc; cases hc
      | refused hfault => rw [Except.error.inj (hfault.symm.trans hc)]
      | complete hok => rw [hc] at hok; cases hok

theorem FailsAt.ofLinesFrom_append (h : FailsAt n p lines fault) (more : List Line) :
    ofLinesFrom o n p (lines ++ more) = p.stop (some fault) := by
  cases h with
  | outside hd ho => exact (Halts.outside hd ho).ofLinesFrom_cons _
  | duplicate hc => exact ofLinesFrom_of_close_eq_error hc n _

theorem FailsAt.ofLinesFrom_eq (h : FailsAt n p lines fault) :
    ofLinesFrom o n p lines = p.stop (some fault) := by
  have happend := h.ofLinesFrom_append (o := o) []
  rwa [List.append_nil] at happend

/-- Where a fault is found, the lines before it are passed. -/
theorem exists_failsAt (h : (ofLinesFrom o n p lines).fault? = some fault) :
    ∃ before after q, lines = before ++ after ∧ PassesAll o p before q ∧
      FailsAt (n + before.length) q after fault := by
  rcases passesAll_or_halts o n p lines with
    ⟨q, hq⟩ | ⟨before, line, after, q, result, rfl, hq, hhalt⟩
  · rw [hq.ofLinesFrom_eq] at h
    cases hc : q.close with
    | error fault' =>
      rw [hc] at h
      obtain rfl := Option.some.inj h
      exact ⟨lines, [], q, by simp, hq, .duplicate hc⟩
    | ok q' => rw [hc] at h; cases h
  · rw [hq.ofLinesFrom_append, hhalt.ofLinesFrom_cons] at h
    refine ⟨before, line :: after, q, rfl, hq, ?_⟩
    cases hhalt with
    | outside hd ho =>
      obtain rfl := Option.some.inj h
      exact .outside hd ho
    | refused hc =>
      obtain rfl := Option.some.inj h
      exact .duplicate hc
    | complete => cases h

end Progress

open Progress

variable {o : Options} {lines : List Line}

/-- Nothing else is found than what makes a text one that cannot be parsed. -/
theorem isParseFault_of_ofLines {fault : Fault} (h : (ofLines o lines).fault? = some fault) :
    fault.isParseFault = true := by
  obtain ⟨before, after, q, -, -, hfail⟩ := exists_failsAt h
  cases hfail with
  | outside => rfl
  | duplicate hc =>
    obtain ⟨name, s, -, -, -, rfl⟩ := close_eq_error_iff.1 hc
    rfl

/-! ## Lines that are read to the end -/

/-- The lines are passed, and leave this document when the open section is closed behind them. -/
def ClosesTo (o : Options) (lines : List Line) (d : Document) : Prop :=
  ∃ p q, PassesAll o {} lines p ∧ p.close = .ok q ∧ q.done = d

/-- Without names of sections to keep, what is read without fault is read to the end. -/
theorem closesTo_of_fault?_eq_none (hi : o.included = []) (h : (ofLines o lines).fault? = none) :
    ClosesTo o lines (ofLines o lines).document := by
  rcases passesAll_or_halts o 1 {} lines with
    ⟨p, hp⟩ | ⟨before, line, after, p, result, rfl, hp, hhalt⟩
  · rw [ofLines, hp.ofLinesFrom_eq] at h ⊢
    cases hclose : p.close with
    | error fault => rw [hclose] at h; cases h
    | ok q => exact ⟨p, q, hp, hclose, rfl⟩
  · rw [ofLines, hp.ofLinesFrom_append, hhalt.ofLinesFrom_cons] at h
    cases hhalt with
    | outside => cases h
    | refused => cases h
    | complete _ hcomplete => rw [isComplete_of_included_eq_nil hi] at hcomplete; cases hcomplete

end IniConfig.Parsed
