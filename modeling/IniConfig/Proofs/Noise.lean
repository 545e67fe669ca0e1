import IniConfig.Proofs.JoinedTexts
import IniConfig.Proofs.LineByLine

/-!
# Lines that say nothing

Some lines can be put into a text and leave what is read of it: lines that are skipped, bare lines
that are not kept, lines of a dropped section, and headers with nothing behind them (`IsNoise`). A
line of the first three kinds leaves the progress as it is. A header closes the open section, but so
does the header behind it or the end; and in between, no entry has come and no section has been read,
so the reading ends early at both headers or at neither (`ofLinesFrom_header_cons`).

Lines are put in one after the other (`WithNoise`), and what is noise among the lines so far need not
have been noise in the first ones: behind a new header of a dropped section there is room for
entries. One more line moves the number of a fault by one if it stands before it
(`ofLines_insert`), so all together move it by the number of those before it (`noiseBefore_insert`).
-/

namespace IniConfig

/-- The same fault with another number for the line. -/
def Fault.renumbered (f : Nat → Nat) : Fault → Fault
  | entryOutsideSection line => entryOutsideSection (f line)
  | fault => fault

namespace Line

def name? : Line → Option Text
  | header name => some name
  | _ => none

/-- The name in the last header among the lines. -/
def lastName? (lines : List Line) : Option Text := (lines.filterMap name?).getLast?

theorem lastName?_concat (lines : List Line) (line : Line) :
    lastName? (lines ++ [line]) = line.name?.or (lastName? lines) := by
  unfold lastName?
  rw [List.filterMap_append]
  cases hname : line.name? with
  | none => simp [hname]
  | some name => simp [hname]

end Line

/-- A line that says nothing between the lines before it and those behind it. -/
inductive IsNoise (o : Options) (before : List Line) : Line → List Line → Prop
  | skipped {after : List Line} : IsNoise o before .skipped after
  | bare {text : Text} {after : List Line} (hb : o.keepBare = false) :
      IsNoise o before (.bare text) after
  /-- The line belongs to a section that is dropped. -/
  | dropped {line : Line} {name : Text} {after : List Line} (hline : line.name? = none)
      (hlast : Line.lastName? before = some name) (hx : o.isExcluded name = true) :
      IsNoise o before line after
  /-- Another header comes next, or the end. -/
  | header {name : Text} {after : List Line} (hnext : ∀ next ∈ after.head?, next.name?.isSome) :
      IsNoise o before (.header name) after

namespace Parsed

def renumbered (f : Nat → Nat) (p : Parsed) : Parsed :=
  { p with fault? := p.fault?.map (·.renumbered f) }

theorem renumbered_renumbered (f g : Nat → Nat) (p : Parsed) :
    (p.renumbered f).renumbered g = p.renumbered fun n => g (f n) := by
  obtain ⟨document, readNames, fault?⟩ := p
  cases fault? with
  | none => rfl
  | some fault => cases fault <;> rfl

theorem renumbered_self (p : Parsed) : (p.renumbered fun n => n) = p := by
  obtain ⟨document, readNames, fault?⟩ := p
  cases fault? with
  | none => rfl
  | some fault => cases fault <;> rfl

namespace Progress

variable {o : Options} {p q : Progress} {n : Nat} {f : Nat → Nat} {lines before after : List Line}
  {line : Line} {name : Text} {fault : Fault}

/-- The fault of a section that is there already has no number. -/
theorem renumbered_stop_of_close (hc : p.close = .error fault) (f : Nat → Nat) :
    (p.stop (some fault)).renumbered f = p.stop (some fault) := by
  obtain ⟨name, s, -, -, -, rfl⟩ := close_eq_error_iff.1 hc
  rfl

/-- The number of the first line matters only to the number in a fault. -/
theorem ofLinesFrom_succ (hf : ∀ k, n ≤ k → f k = k + 1) :
    ofLinesFrom o (n + 1) p lines = (ofLinesFrom o n p lines).renumbered f := by
  induction lines generalizing n p with
  | nil =>
    rw [ofLinesFrom, ofLinesFrom]
    cases hc : p.close with
    | error fault => exact (renumbered_stop_of_close hc f).symm
    | ok q => rfl
  | cons line rest ih =>
    rcases passes_or_halts o n p line with ⟨q, hpass⟩ | ⟨result, hhalt⟩
    · rw [hpass.ofLinesFrom_cons, hpass.ofLinesFrom_cons]
      apply ih
      intro k hk
      exact hf k (Nat.le_of_succ_le hk)
    · rw [hhalt.ofLinesFrom_cons]
      cases hhalt with
      | outside hd ho =>
        rw [(Halts.outside hd ho).ofLinesFrom_cons, ← hf n (Nat.le_refl n)]
        rfl
      | refused hc =>
        rw [(Halts.refused hc).ofLinesFrom_cons, renumbered_stop_of_close hc]
      | complete hc hi =>
        rw [(Halts.complete hc hi).ofLinesFrom_cons]
        rfl

/-! ## One line more -/

theorem PassesAll.dropping_eq (h : PassesAll o {} lines p) :
    p.dropping = (Line.lastName? lines).any o.isExcluded := by
  induction h with
  | nil => rfl
  | concat _ hline ih =>
    rw [Line.lastName?_concat]
    cases hline with
    | header => rfl
    | _ => exact ih

theorem passes_of_isNoise (h : IsNoise o before line after) (hline : line.name? = none)
    (hp : PassesAll o {} before p) : Passes o p line p := by
  cases h with
  | skipped => exact .skipped
  | bare hb => exact .lost (by rw [hb]; rfl)
  | dropped _ hlast hx =>
    have hd : p.dropping = true := by
      rw [hp.dropping_eq, hlast]
      exact hx
    cases line with
    | skipped => exact .skipped
    | entry key value => exact .dropped hd
    | bare text => exact .lost (by simp [hd])
    | header name => cases hline
  | header => cases hline

/-- A header with nothing behind it says no more than the next header or the end. -/
theorem ofLinesFrom_header_cons (hnext : ∀ next ∈ after.head?, next.name?.isSome) :
    ofLinesFrom o n p (.header name :: after) = ofLinesFrom o (n + 1) p after := by
  cases hc : p.close with
  | error fault => rw [ofLinesFrom_of_close_eq_error hc, ofLinesFrom_of_close_eq_error hc]
  | ok q =>
    have hempty := close_opened o q name
    cases after with
    | nil =>
      cases hi : isComplete o q.read with
      | true => rw [(Halts.complete hc hi).ofLinesFrom_cons, ofLinesFrom, hc]
      | false =>
        rw [(Passes.header hc hi).ofLinesFrom_cons, ofLinesFrom, ofLinesFrom, hempty, hc]
        rfl
    | cons line rest =>
      cases line with
      | header next =>
        cases hi : isComplete o q.read with
        | true =>
          rw [(Halts.complete hc hi).ofLinesFrom_cons, (Halts.complete hc hi).ofLinesFrom_cons]
        | false =>
          -- the second header opens its section whatever the first has opened
          rw [(Passes.header hc hi).ofLinesFrom_cons, (Passes.header hempty hi).ofLinesFrom_cons,
            (Passes.header hc hi).ofLinesFrom_cons]
          rfl
      | _ => cases hnext _ rfl

/-- Behind the lines before it, a line of noise is passed over. -/
theorem ofLinesFrom_cons_of_isNoise (h : IsNoise o before line after)
    (hp : PassesAll o {} before p) :
    ofLinesFrom o n p (line :: after) = ofLinesFrom o (n + 1) p after := by
  cases hline : line.name? with
  | none => exact (passes_of_isNoise h hline hp).ofLinesFrom_cons n after
  | some name =>
    cases h with
    | header hnext => exact ofLinesFrom_header_cons hnext
    | dropped hno => rw [hno] at hline; cases hline
    | _ => cases hline

end Progress

open Progress

variable {o : Options} {before after : List Line} {line : Line}

/-- A line of noise moves only the faults behind it. -/
theorem ofLines_insert (h : IsNoise o before line after) :
    ofLines o (before ++ line :: after) =
      (ofLines o (before ++ after)).renumbered
        fun n => if before.length < n then n + 1 else n := by
  rcases passesAll_or_halts o 1 {} before with
    ⟨p, hp⟩ | ⟨first, halting, rest, p, result, rfl, hp, hhalt⟩
  · rw [ofLines, ofLines, hp.ofLinesFrom_append, hp.ofLinesFrom_append,
      ofLinesFrom_cons_of_isNoise h hp]
    apply ofLinesFrom_succ
    intro k hk
    exact if_pos (by omega)
  · -- the line is not reached
    rw [ofLines, ofLines, List.append_assoc, List.append_assoc, List.cons_append,
      List.cons_append, hp.ofLinesFrom_append, hp.ofLinesFrom_append, hhalt.ofLinesFrom_cons,
      hhalt.ofLinesFrom_cons]
    have hfar : ¬ (first ++ halting :: rest).length < 1 + first.length := by
      rw [List.length_append, List.length_cons]
      omega
    cases hhalt with
    | outside hd ho =>
      rw [renumbered, Progress.stop, Option.map_some, Fault.renumbered, if_neg hfar]
    | refused hc => exact (renumbered_stop_of_close hc _).symm
    | complete => rfl

end Parsed

/-! ## Many lines more -/

/-- A line, and whether it was put in as noise. -/
structure NotedLine where
  text : Text
  isNoise : Bool
deriving DecidableEq, Repr

namespace NotedLine

/-- The lines of a text, none of which was put in. -/
def own (ls : List Text) : List NotedLine := ls.map (⟨·, false⟩)

def texts (m : List NotedLine) : List Text := m.map (·.text)

def said (m : List NotedLine) : List Line := (texts m).map Line.classify

/-- The number of lines that were put in before the line that had this number, counted from one,
without them. -/
def noiseBefore : List NotedLine → Nat → Nat
  | _, 0 => 0
  | [], _ => 0
  | l :: m, n + 1 => if l.isNoise then noiseBefore m (n + 1) + 1 else noiseBefore m n

/-- The lines with noise put in, one line after the other. -/
inductive WithNoise (o : Options) (ls : List Text) : List NotedLine → Prop
  | none : WithNoise o ls (own ls)
  | insert {before after : List NotedLine} {l : Text} (h : WithNoise o ls (before ++ after))
      (hl : IsNoise o (said before) (Line.classify l) (said after)) :
      WithNoise o ls (before ++ ⟨l, true⟩ :: after)

variable {o : Options} {ls : List Text} {m before after : List NotedLine} {n : Nat}

theorem noiseBefore_zero (m : List NotedLine) : noiseBefore m 0 = 0 := by
  cases m <;> rfl

theorem texts_own (ls : List Text) : texts (own ls) = ls := by
  simp [own, texts, Function.comp_def]

theorem noiseBefore_own (ls : List Text) (n : Nat) : noiseBefore (own ls) n = 0 := by
  induction ls generalizing n with
  | nil => cases n <;> rfl
  | cons l ls ih =>
    cases n with
    | zero => rfl
    | succ n => exact ih n

theorem noiseBefore_insert (l : Text) :
    noiseBefore (before ++ ⟨l, true⟩ :: after) n =
      noiseBefore (before ++ after) n +
        if before.length < n + noiseBefore (before ++ after) n then 1 else 0 := by
  induction before generalizing n with
  | nil =>
    cases n with
    | zero => simp [noiseBefore_zero]
    | succ n => simp [noiseBefore]
  | cons first before ih =>
    cases n with
    | zero => simp [noiseBefore_zero]
    | succ n =>
      simp only [List.cons_append, noiseBefore, List.length_cons]
      split
      · rw [ih]
        split <;> split <;> omega
      · rw [ih]
        split <;> split <;> omega

theorem said_append (m m' : List NotedLine) : said (m ++ m') = said m ++ said m' := by
  simp [said, texts]

theorem WithNoise.ofLines_said (h : WithNoise o ls m) :
    Parsed.ofLines o (said m) =
      (Parsed.ofLines o (ls.map Line.classify)).renumbered fun n => n + noiseBefore m n := by
  induction h with
  | none =>
    simp only [noiseBefore_own, Nat.add_zero, Parsed.renumbered_self, said, texts_own]
  | @insert before after l _ hl ih =>
    have hmore : said (before ++ ⟨l, true⟩ :: after) =
        said before ++ Line.classify l :: said after := said_append _ _
    rw [hmore, Parsed.ofLines_insert hl, ← said_append, ih, Parsed.renumbered_renumbered]
    congr 1
    funext n
    have hlength : (said before).length = before.length := by simp [said, texts]
    rw [noiseBefore_insert, hlength]
    split <;> omega

theorem WithNoise.sublist (h : WithNoise o ls m) : ls.Sublist (texts m) := by
  induction h with
  | none => simp [texts_own]
  | insert _ _ ih =>
    refine ih.trans ?_
    unfold texts
    rw [List.map_append, List.map_append]
    exact (List.sublist_cons_self _ _).append_left _

end NotedLine

open NotedLine

theorem Parsed.ofText_joined {o : Options} {ls : List Text} (ho : o.prepare? = none)
    (hlen : 3 ≤ ls.length) (hls : ∀ l ∈ ls, Text.IsWhole l) :
    ofText o (Text.joined ls) = ofLines o (ls.map Line.classify) := by
  rw [ofText_of_prepare?_eq_none ho, Text.lines_joined hls (Text.delimiter_joined hlen)]

/-- **Noise in a text changes neither what is read of it nor the reply, but for the number of the
line in a fault: that grows by the number of lines of noise before it.** -/
theorem Editor.parse_withNoise {e : Editor} {ls : List Text} {m : List NotedLine}
    (ho : e.options.prepare? = none) (hlen : 3 ≤ ls.length)
    (hm : ∀ l ∈ texts m, Text.IsWhole l) (h : WithNoise e.options ls m) :
    let plain := e.parse (Text.joined ls)
    let noisy := e.parse (Text.joined (texts m))
    noisy.1 = plain.1.mapError (·.renumbered fun n => n + noiseBefore m n) ∧
      noisy.2 = plain.2 := by
  intro plain noisy
  have hplain := Parsed.ofText_joined ho hlen fun l hl => hm l (h.sublist.subset hl)
  have hnoisy := Parsed.ofText_joined ho (Nat.le_trans hlen h.sublist.length_le) hm
  have hmoved := h.ofLines_said
  rw [said, ← hnoisy, ← hplain] at hmoved
  constructor
  · change (e.parse _).1 = (e.parse _).1.mapError _
    rw [fst_parse, fst_parse, hmoved]
    exact Parsed.reply_eq_mapError rfl
  · change (e.parse _).2 = (e.parse _).2
    rw [parse_eq, parse_eq, hmoved]
    simp [Parsed.renumbered]

/-- A comment, a bare line, a header of a dropped section and an entry behind it move the fault of
the fourth line by four lines. -/
theorem parse_withNoise_four_kinds :
    let e := Editor.new { excluded := ["z".toList] }
    let ls : List Text := ["[a]".toList, "x = 1".toList, "[]".toList, "y = 2".toList]
    let m : List NotedLine :=
      [⟨"; c".toList, true⟩, ⟨"[a]".toList, false⟩, ⟨"x = 1".toList, false⟩,
        ⟨"bare".toList, true⟩, ⟨"[z]".toList, true⟩, ⟨"w = 3".toList, true⟩,
        ⟨"[]".toList, false⟩, ⟨"y = 2".toList, false⟩]
    WithNoise e.options ls m ∧
      (e.parse (Text.joined ls)).1 = .error (.entryOutsideSection 4) ∧
      (e.parse (Text.joined (texts m))).1 = .error (.entryOutsideSection 8) ∧
      (e.parse (Text.joined (texts m))).2.document =
        [("a".toList, [⟨"x".toList, "1".toList⟩])] := by
  intro e ls m
  let first : List NotedLine := [⟨"[a]".toList, false⟩, ⟨"x = 1".toList, false⟩]
  let last : List NotedLine := [⟨"[]".toList, false⟩, ⟨"y = 2".toList, false⟩]
  have hheader : WithNoise e.options ls (first ++ ⟨"[z]".toList, true⟩ :: last) :=
    .insert .none (.header (by decide))
  have hentry : WithNoise e.options ls
      ((first ++ [⟨"[z]".toList, true⟩]) ++ ⟨"w = 3".toList, true⟩ :: last) :=
    .insert hheader (.dropped rfl rfl (by decide))
  let dropped : List NotedLine := ⟨"[z]".toList, true⟩ :: ⟨"w = 3".toList, true⟩ :: last
  have hbare : WithNoise e.options ls (first ++ ⟨"bare".toList, true⟩ :: dropped) :=
    .insert hentry (.bare rfl)
  have hcomment : WithNoise e.options ls
      ([] ++ ⟨"; c".toList, true⟩ :: (first ++ ⟨"bare".toList, true⟩ :: dropped)) :=
    .insert hbare .skipped
  have hnoise : WithNoise e.options ls m := hcomment
  have hfault : (e.parse (Text.joined ls)).1 = .error (.entryOutsideSection 4) := rfl
  obtain ⟨hreply, hsame⟩ := Editor.parse_withNoise (e := e) rfl (by decide) (by decide) hnoise
  refine ⟨hnoise, hfault, ?_, ?_⟩
  · rw [hreply, hfault]
    rfl
  · rw [hsame]
    rfl

end IniConfig
