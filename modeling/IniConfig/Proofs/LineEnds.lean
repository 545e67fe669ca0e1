import IniConfig.Proofs.Blocks
import IniConfig.Proofs.JoinedTexts

/-!
# Line ends

Carriage returns do not count in a text that is cut at its line feeds: they can be dropped before
the cut as well as after it (`map_dropReturns_splitOn`), so two texts that differ in nothing else
have the same lines (`SameButReturns.lines_eq`). With carriage returns alone as line ends there is no
line feed, and the text is cut at them. In all, three lines or more come back from a text with any of
the three customary line ends (`lines_joinedBy`); two lines do not, since one line feed is not enough
to be cut at.
-/

namespace IniConfig

namespace Text

variable {t u : Text} {ls : List Text}

/-! ## Texts that differ in carriage returns only -/

/-- The second text is the first with carriage returns put in and taken out, anywhere. -/
inductive SameButReturns : Text → Text → Prop
  | nil : SameButReturns [] []
  | keep (c : Char) {t u : Text} (h : SameButReturns t u) : SameButReturns (c :: t) (c :: u)
  | insert {t u : Text} (h : SameButReturns t u) : SameButReturns t ('\r' :: u)
  | delete {t u : Text} (h : SameButReturns t u) : SameButReturns ('\r' :: t) u

theorem dropReturns_cons_return (t : Text) : dropReturns ('\r' :: t) = dropReturns t :=
  List.filter_cons_of_neg (by decide)

theorem dropReturns_cons_of_ne {c : Char} (h : c ≠ '\r') (t : Text) :
    dropReturns (c :: t) = c :: dropReturns t :=
  List.filter_cons_of_pos (by simpa using h)

theorem dropReturns_append (t u : Text) : dropReturns (t ++ u) = dropReturns t ++ dropReturns u :=
  List.filter_append ..

theorem SameButReturns.dropReturns_eq (h : SameButReturns t u) :
    dropReturns t = dropReturns u := by
  induction h with
  | nil => rfl
  | keep c _ ih =>
    by_cases hc : c = '\r'
    · rw [hc, dropReturns_cons_return, dropReturns_cons_return, ih]
    · rw [dropReturns_cons_of_ne hc, dropReturns_cons_of_ne hc, ih]
  | insert _ ih => rw [dropReturns_cons_return, ih]
  | delete _ ih => rw [dropReturns_cons_return, ih]

theorem count_dropReturns (t : Text) : (dropReturns t).count '\n' = t.count '\n' :=
  List.count_filter (by decide)

/-- Carriage returns are dropped before the cut or after it. -/
theorem map_dropReturns_splitOn (t : Text) :
    (t.splitOn '\n').map dropReturns = (dropReturns t).splitOn '\n' := by
  induction t with
  | nil => rfl
  | cons c t ih =>
    obtain ⟨first, rest, hsplit⟩ := List.exists_cons_of_ne_nil (List.splitOn_ne_nil '\n' t)
    rw [List.splitOn_cons_eq_if_modifyHead]
    by_cases hlf : c = '\n'
    · subst hlf
      rw [if_pos (beq_self_eq_true _), dropReturns_cons_of_ne (by decide),
        List.splitOn_cons_eq_if_modifyHead, if_pos (beq_self_eq_true _), List.map_cons, ih]
      rfl
    · have hne : ¬ (c == '\n') = true := by simpa using hlf
      rw [if_neg hne, hsplit, List.modifyHead_cons, List.map_cons]
      rw [hsplit, List.map_cons] at ih
      by_cases hcr : c = '\r'
      · rw [hcr, dropReturns_cons_return, dropReturns_cons_return, ih]
      · rw [dropReturns_cons_of_ne hcr, dropReturns_cons_of_ne hcr,
          List.splitOn_cons_eq_if_modifyHead, if_neg hne, ← ih, List.modifyHead_cons]

theorem lines_eq_splitOn_dropReturns (ht : 2 ≤ t.count '\n') :
    t.lines = (dropReturns t).splitOn '\n' := by
  rw [lines, delimiter_eq_lf_iff.2 ht, map_dropReturns_splitOn]

theorem lines_eq_of_dropReturns_eq (ht : 2 ≤ t.count '\n')
    (h : dropReturns t = dropReturns u) : t.lines = u.lines := by
  have hu : 2 ≤ u.count '\n' := by
    rwa [← count_dropReturns, ← h, count_dropReturns]
  rw [lines_eq_splitOn_dropReturns ht, lines_eq_splitOn_dropReturns hu, h]

theorem SameButReturns.lines_eq (h : SameButReturns t u) (ht : 2 ≤ t.count '\n') :
    t.lines = u.lines :=
  lines_eq_of_dropReturns_eq ht h.dropReturns_eq

end Text

/-! ## The three customary line ends -/

/-- What may stand between two lines. -/
inductive LineEnd where
  | feed
  | returnAndFeed
  | carriageReturn
deriving DecidableEq, Repr

def LineEnd.text : LineEnd → Text
  | feed => ['\n']
  | returnAndFeed => ['\r', '\n']
  | carriageReturn => ['\r']

namespace Text

variable {ls : List Text}

/-- The lines with this line end between neighbours. -/
def joinedBy (x : LineEnd) (ls : List Text) : Text := x.text.intercalate ls

theorem joinedBy_cons_cons (x : LineEnd) (l l' : Text) (ls : List Text) :
    joinedBy x (l :: l' :: ls) = l ++ (x.text ++ joinedBy x (l' :: ls)) := by
  rw [joinedBy, List.intercalate_cons_cons, List.append_assoc]
  rfl

theorem dropReturns_joinedBy_returnAndFeed (hls : ∀ l ∈ ls, '\r' ∉ l) :
    dropReturns (joinedBy .returnAndFeed ls) = joined ls := by
  induction ls with
  | nil => rfl
  | cons l ls ih =>
    have hl : dropReturns l = l := dropReturns_eq_self (hls l List.mem_cons_self)
    cases ls with
    | nil => simpa [joinedBy, joined] using hl
    | cons l' ls =>
      have hrest := ih fun x hx => hls x (List.mem_cons_of_mem _ hx)
      have hend : dropReturns LineEnd.returnAndFeed.text = ['\n'] := by decide
      rw [joinedBy_cons_cons, dropReturns_append, dropReturns_append, hl, hend, hrest]
      simp [joined, List.intercalate_cons_cons]

theorem not_mem_joinedBy_carriageReturn (hls : ∀ l ∈ ls, '\n' ∉ l) :
    '\n' ∉ joinedBy .carriageReturn ls := by
  induction ls with
  | nil => exact List.not_mem_nil
  | cons l ls ih =>
    have hl : '\n' ∉ l := hls l List.mem_cons_self
    have hrest := ih fun x hx => hls x (List.mem_cons_of_mem _ hx)
    cases ls with
    | nil => simpa [joinedBy] using hl
    | cons l' ls =>
      simp only [joinedBy_cons_cons, List.mem_append, not_or]
      exact ⟨hl, by decide, hrest⟩

/-- Three lines or more come back from their text, whichever line end stands between them. -/
theorem lines_joinedBy (hlen : 3 ≤ ls.length) (hls : ∀ l ∈ ls, IsWhole l) (x : LineEnd) :
    (joinedBy x ls).lines = ls := by
  have hcr : ∀ l ∈ ls, '\r' ∉ l := fun l hl => (hls l hl).2
  have hcount : 2 ≤ (joined ls).count '\n' := delimiter_eq_lf_iff.1 (delimiter_joined hlen)
  have hfeed : (joined ls).lines = ls := lines_joined hls (delimiter_joined hlen)
  cases x with
  | feed => exact hfeed
  | returnAndFeed =>
    have hdrop : dropReturns (joined ls) = dropReturns (joinedBy .returnAndFeed ls) := by
      rw [← dropReturns_joinedBy_returnAndFeed hcr]
      exact (dropReturns_eq_self (not_mem_dropReturns _))
    rw [← lines_eq_of_dropReturns_eq hcount hdrop, hfeed]
  | carriageReturn =>
    have hno := not_mem_joinedBy_carriageReturn fun l hl => (hls l hl).1
    have hcut : (joinedBy .carriageReturn ls).delimiter = '\r' := by
      rw [delimiter_eq_cr_iff, List.count_eq_zero_of_not_mem hno]
      exact Nat.zero_le 1
    have hne : ls ≠ [] := by
      rintro rfl
      exact absurd hlen (by decide)
    rw [lines, hcut, joinedBy, LineEnd.text, List.splitOn_intercalate '\r' hcr hne]
    exact map_dropReturns hcr

/-- Two lines are not enough: with a line feed between them they are one line. -/
example : (joinedBy .feed ["a".toList, "b".toList]).lines = ["a\nb".toList] ∧
    (joinedBy .carriageReturn ["a".toList, "b".toList]).lines = ["a".toList, "b".toList] := by
  decide

end Text

/-! ## Texts that are read -/

theorem Parsed.ofText_eq_of_lines_eq {o : Options} {t u : Text} (ho : o.prepare? = none)
    (h : t.lines = u.lines) : ofText o t = ofText o u := by
  rw [ofText_of_prepare?_eq_none ho, ofText_of_prepare?_eq_none ho, h]

theorem Editor.parse_eq_of_lines_eq {e : Editor} {t u : Text} (ho : e.options.prepare? = none)
    (h : t.lines = u.lines) : e.parse t = e.parse u := by
  rw [parse_eq, parse_eq, Parsed.ofText_eq_of_lines_eq ho h]

/-- **Three lines or more are read alike with any line end between them, and a text that is cut at
its line feeds is read alike wherever carriage returns stand in it: the reply and all that the editor
holds are the same.** -/
theorem Editor.parse_lineEnds {e : Editor} (ho : e.options.prepare? = none) :
    (∀ ls : List Text, 3 ≤ ls.length → (∀ l ∈ ls, Text.IsWhole l) → ∀ x y : LineEnd,
      e.parse (Text.joinedBy x ls) = e.parse (Text.joinedBy y ls)) ∧
      ∀ t u : Text, 2 ≤ t.count '\n' → Text.SameButReturns t u → e.parse t = e.parse u := by
  constructor
  · intro ls hlen hls x y
    apply parse_eq_of_lines_eq ho
    rw [Text.lines_joinedBy hlen hls, Text.lines_joinedBy hlen hls]
  · intro t u ht h
    exact parse_eq_of_lines_eq ho (h.lines_eq ht)

/-- The entry outside of sections is on the fourth line with each line end, and a carriage return in
the middle of a header does not change its name. -/
theorem parse_lineEnds_four_lines :
    let e := Editor.new {}
    let ls : List Text := ["[a]".toList, "x = 1".toList, "[]".toList, "y = 2".toList]
    (e.parse (Text.joinedBy .returnAndFeed ls)).1 = .error (.entryOutsideSection 4) ∧
      (e.parse (Text.joinedBy .carriageReturn ls)).1 = .error (.entryOutsideSection 4) ∧
      (e.parse "[a\rb]\nx = 1\r\n".toList).2.document =
        [("ab".toList, [⟨"x".toList, "1".toList⟩])] := by
  intro e ls
  have hfeed : (e.parse (Text.joinedBy .feed ls)).1 = .error (.entryOutsideSection 4) := rfl
  have hplain : (e.parse "[ab]\nx = 1\n".toList).2.document =
      [("ab".toList, [⟨"x".toList, "1".toList⟩])] := rfl
  obtain ⟨hends, hreturns⟩ := Editor.parse_lineEnds (e := e) rfl
  have hsame : Text.SameButReturns "[ab]\nx = 1\n".toList "[a\rb]\nx = 1\r\n".toList := by
    refine .keep '[' (.keep 'a' (.insert (.keep 'b' (.keep ']' (.keep '\n' ?_)))))
    exact .keep 'x' (.keep ' ' (.keep '=' (.keep ' ' (.keep '1' (.insert (.keep '\n' .nil))))))
  have hwhole : ∀ l ∈ ls, Text.IsWhole l := by decide
  refine ⟨?_, ?_, ?_⟩
  · rw [hends ls (by decide) hwhole .returnAndFeed .feed, hfeed]
  · rw [hends ls (by decide) hwhole .carriageReturn .feed, hfeed]
  · rw [← hreturns _ _ (by decide) hsame, hplain]

end IniConfig
