import IniConfig.Block
import IniConfig.Editor

/-!
# Reading line by line is reading block by block

Line by line, the open section is carried along and joins the document at the next header or at the
end. Block by block, each header comes with its lines at once. Both say the same of every text
(`Parsed.ofText_eq_ofBlocks`): what is still to come of the open section are the lines up to the
next header, and `resume` closes the section with them (`ofLinesFrom_eq`). A line keeps its number
in its block (`getElem?_of_mem_cut`), so a fault names the same line.

Block by block it is plain where the content of a document comes from: each section from a block of
its own (`mem_read`), and all entries from lines, in the order of the lines (`sublist_read`).
-/

namespace IniConfig

namespace Block

/-! ## Cutting -/

/-- The lines of the block, the header among them. -/
def allLines (b : Block) : List Line := b.name?.toList.map .header ++ b.lines.map (·.2)

theorem cutFrom_header (n : Nat) (name : Text) (rest : List Line) :
    cutFrom n (.header name :: rest) =
      ([], ⟨some name, (cutFrom (n + 1) rest).1⟩ :: (cutFrom (n + 1) rest).2) := rfl

theorem cutFrom_of_not_header {line : Line} (n : Nat) (rest : List Line)
    (h : ∀ name, line ≠ .header name) :
    cutFrom n (line :: rest) =
      ((n, line) :: (cutFrom (n + 1) rest).1, (cutFrom (n + 1) rest).2) := by
  cases line with
  | header name => exact absurd rfl (h name)
  | skipped => rfl
  | entry key value => rfl
  | bare text => rfl

/-- Nothing is lost or moved when lines are cut into blocks. -/
theorem allLines_cutFrom (n : Nat) (lines : List Line) :
    (cutFrom n lines).1.map (·.2) ++ (cutFrom n lines).2.flatMap allLines = lines := by
  induction lines generalizing n with
  | nil => rfl
  | cons line rest ih =>
    have hrest := ih (n + 1)
    cases line with
    | header name =>
      rw [cutFrom_header, List.flatMap_cons]
      simpa [allLines] using hrest
    | skipped => simpa [cutFrom] using hrest
    | entry key value => simpa [cutFrom] using hrest
    | bare text => simpa [cutFrom] using hrest

theorem allLines_cut (lines : List Line) : (cut lines).flatMap allLines = lines := by
  rw [cut, List.flatMap_cons]
  exact allLines_cutFrom 1 lines

/-- The number of a line is its place among the lines, counted from the number of the first. -/
theorem getElem?_of_mem_cutFrom {n i : Nat} {lines : List Line} {line : Line}
    (h : (i, line) ∈ (cutFrom n lines).1 ∨ ∃ b ∈ (cutFrom n lines).2, (i, line) ∈ b.lines) :
    n ≤ i ∧ lines[i - n]? = some line := by
  induction lines generalizing n with
  | nil => simp [cutFrom] at h
  | cons first rest ih =>
    have hrest : ((i, line) ∈ (cutFrom (n + 1) rest).1 ∨
        ∃ b ∈ (cutFrom (n + 1) rest).2, (i, line) ∈ b.lines) →
        n ≤ i ∧ (first :: rest)[i - n]? = some line := by
      intro h
      obtain ⟨hle, hline⟩ := ih h
      have hplace : i - n = i - (n + 1) + 1 := by omega
      refine ⟨by omega, ?_⟩
      rw [hplace, List.getElem?_cons_succ]
      exact hline
    by_cases hf : ∃ name, first = .header name
    · obtain ⟨name, rfl⟩ := hf
      rw [cutFrom_header] at h
      rcases h with h | ⟨b, hb, h⟩
      · cases h
      · rcases List.mem_cons.1 hb with rfl | hb
        · exact hrest (Or.inl h)
        · exact hrest (Or.inr ⟨b, hb, h⟩)
    · rw [cutFrom_of_not_header n rest fun name hn => hf ⟨name, hn⟩] at h
      rcases h with h | h
      · rcases List.mem_cons.1 h with h | h
        · obtain ⟨rfl, rfl⟩ := Prod.mk.inj h
          exact ⟨Nat.le_refl _, by simp⟩
        · exact hrest (Or.inl h)
      · exact hrest (Or.inr h)

theorem getElem?_of_mem_cut {i : Nat} {lines : List Line} {line : Line} {b : Block}
    (hb : b ∈ cut lines) (h : (i, line) ∈ b.lines) : 1 ≤ i ∧ lines[i - 1]? = some line := by
  apply getElem?_of_mem_cutFrom
  rcases List.mem_cons.1 hb with rfl | hb
  · exact Or.inl h
  · exact Or.inr ⟨b, hb, h⟩

/-! ## What one block adds -/

variable {o : Options} {b : Block} {d d' : Document} {name : Text}

theorem addTo_of_excluded (hb : b.name? = some name) (hx : o.isExcluded name) :
    b.addTo o d = .ok d := by
  unfold addTo
  rw [hb]
  exact if_pos hx

theorem addTo_of_nil (hb : b.name? = some []) (hx : ¬ o.isExcluded []) :
    b.addTo o d = b.addOutside d := by
  unfold addTo
  rw [hb]
  exact if_neg hx

theorem addTo_of_kept (hb : b.name? = some name) (hx : ¬ o.isExcluded name) (hn : name ≠ []) :
    b.addTo o d = if b.entries o = [] then .ok d else d.commit name (b.entries o) := by
  unfold addTo
  rw [hb]
  simp only [if_neg hx, if_neg hn]

theorem eq_of_addOutside (h : b.addOutside d = .ok d') : d' = d := by
  unfold addOutside at h
  split at h
  · cases h
  · exact (Except.ok.inj h).symm

theorem addOutside_eq_ok (h : b.addOutside d = .ok d') (d₁ : Document) :
    b.addOutside d₁ = .ok d₁ := by
  unfold addOutside at h ⊢
  split at h
  · cases h
  · rfl

theorem readNames_read (o : Options) (d : Document) (blocks : List Block) :
    (read o d blocks).readNames = (read o d blocks).document.names := by
  induction blocks generalizing d with
  | nil => rfl
  | cons b rest ih =>
    rw [read]
    split
    · rfl
    next d' _ =>
      split
      · rfl
      · exact ih d'

/-- A block adds nothing, or a section of its own at the end. -/
theorem addTo_eq_ok (h : b.addTo o d = .ok d') :
    d' = d ∨ ∃ name, b.name? = some name ∧ o.isExcluded name = false ∧ name ≠ [] ∧
      b.entries o ≠ [] ∧ name ∉ d.names ∧ d' = d ++ [(name, b.entries o)] := by
  cases hb : b.name? with
  | none =>
    rw [addTo, hb] at h
    exact Or.inl (eq_of_addOutside h)
  | some name =>
    by_cases hx : o.isExcluded name
    · rw [addTo_of_excluded hb hx] at h
      exact Or.inl (Except.ok.inj h).symm
    · by_cases hn : name = []
      · subst hn
        rw [addTo_of_nil hb hx] at h
        exact Or.inl (eq_of_addOutside h)
      · rw [addTo_of_kept hb hx hn] at h
        split at h
        · exact Or.inl (Except.ok.inj h).symm
        next hs =>
          obtain ⟨hnew, rfl⟩ := Document.commit_eq_ok_iff.1 h
          exact Or.inr ⟨name, rfl, by simpa using hx, hn, hs, hnew, rfl⟩

end Block

namespace Parsed

/-! ## When reading ends early -/

theorem isComplete_of_included_eq_nil {o : Options} (hi : o.included = []) (names : List Text) :
    isComplete o names = false := by
  simp [isComplete, hi]

/-- When all sections to keep are there, the names that are not dropped are there. -/
theorem mem_of_isComplete {o : Options} {names : List Text} {name : Text}
    (hc : isComplete o names = true) (hx : o.isExcluded name = false) : name ∈ names := by
  obtain ⟨hne, rfl⟩ : o.included ≠ [] ∧ names = o.included := by simpa [isComplete] using hc
  by_cases hn : name ∈ o.included
  · exact hn
  · exact absurd (Options.isExcluded_iff.2 (Or.inr ⟨hne, hn⟩)) (Bool.eq_false_iff.1 hx)

/-- As long as a section that is to be kept is missing, reading goes on. -/
theorem isComplete_eq_false {o : Options} {names : List Text} {name : Text}
    (hx : o.isExcluded name = false) (hn : name ∉ names) : isComplete o names = false :=
  Bool.eq_false_iff.2 fun hc => hn (mem_of_isComplete hc hx)

/-! ## What is to come of the open section -/

namespace Progress

/-- With the entries of the lines in the open section, and the section closed: what is left to do
of a block whose first lines have been read. -/
def resume (o : Options) (p : Progress) (lines : List (Nat × Line)) : Except Fault Progress :=
  if p.dropping then p.close
  else
    match p.open? with
    | none =>
      match Block.firstEntry? ⟨none, lines⟩ with
      | some n => .error (.entryOutsideSection n)
      | none => .ok p
    | some (name, s) =>
      { p with open? := some (name, s ++ (Block.mk (some name) lines).entries o) }.close

variable {o : Options} {p q : Progress} {n : Nat} {name : Text} {lines : List (Nat × Line)}
  {fault : Fault}

/-- The names that were read are those of the sections that are closed. -/
def Aligned (p : Progress) : Prop := p.read = p.done.names

theorem close_of_open?_eq_none (h : p.open? = none) : p.close = .ok p := by
  unfold close
  rw [h]
  simp only [← h]

theorem close_opened_empty (h : p.open? = some (name, [])) :
    p.close = .ok { p with open? := none } := by
  unfold close
  rw [h]

/-- Nothing is in a section that was just opened. -/
theorem close_opened (o : Options) (p : Progress) (name : Text) :
    (p.opened o name).close = .ok { p.opened o name with open? := none } := by
  by_cases hn : name = []
  · subst hn
    exact close_of_open?_eq_none rfl
  · exact close_opened_empty (if_neg hn)

theorem close_of_filled {s : Section} (h : p.open? = some (name, s)) (hs : s ≠ []) :
    p.close = (p.done.commit name s).map fun d =>
      { p with done := d, read := p.read ++ [name], open? := none } := by
  unfold close
  rw [h]
  cases s with
  | nil => exact absurd rfl hs
  | cons e s => rfl

/-- What is closed adds nothing if there are no entries, and else itself under a new name. -/
theorem close_eq_ok_iff :
    p.close = .ok q ↔
      (∀ name s, p.open? = some (name, s) → s = []) ∧ q = { p with open? := none } ∨
      ∃ name s, p.open? = some (name, s) ∧ s ≠ [] ∧ name ∉ p.done.names ∧
        q = { p with done := p.done ++ [(name, s)], read := p.read ++ [name], open? := none } := by
  constructor
  · intro h
    unfold close at h
    split at h
    next ho => exact Or.inl ⟨by simp [ho], (Except.ok.inj h).symm⟩
    next ho => exact Or.inl ⟨by simp [ho], (Except.ok.inj h).symm⟩
    next name s hs ho =>
      cases hc : p.done.commit name s with
      | error fault => rw [hc] at h; cases h
      | ok d =>
        obtain ⟨hnew, rfl⟩ := Document.commit_eq_ok_iff.1 hc
        rw [hc] at h
        exact Or.inr ⟨name, s, ho, hs, hnew, (Except.ok.inj h).symm⟩
  · rintro (⟨hempty, rfl⟩ | ⟨name, s, ho, hs, hnew, rfl⟩)
    · unfold close
      cases ho : p.open? with
      | none => rfl
      | some x =>
        obtain ⟨name, s⟩ := x
        obtain rfl := hempty name s ho
        rfl
    · rw [close_of_filled ho hs, Document.commit_eq_ok_iff.2 ⟨hnew, rfl⟩]
      rfl

theorem close_eq_error_iff :
    p.close = .error fault ↔
      ∃ name s, p.open? = some (name, s) ∧ s ≠ [] ∧ name ∈ p.done.names ∧
        fault = .duplicateSection name := by
  constructor
  · intro h
    unfold close at h
    split at h
    · cases h
    · cases h
    next name s hs ho =>
      refine ⟨name, s, ho, hs, ?_⟩
      unfold Document.commit at h
      split at h
      next hthere =>
        exact ⟨Document.contains_iff_mem_names.1 hthere, (Except.error.inj h).symm⟩
      · cases h
  · rintro ⟨name, s, ho, hs, hthere, rfl⟩
    rw [close_of_filled ho hs, Document.commit, if_pos (Document.contains_iff_mem_names.2 hthere)]
    rfl

theorem Aligned.read_append {s : Section} {d : Document} (hp : p.Aligned)
    (hc : p.done.commit name s = .ok d) : p.read ++ [name] = d.names := by
  obtain ⟨-, rfl⟩ := Document.commit_eq_ok_iff.1 hc
  rw [show p.read = p.done.names from hp, Document.names_append]
  rfl

theorem Aligned.close (hp : p.Aligned) (h : p.close = .ok q) : q.Aligned := by
  rcases close_eq_ok_iff.1 h with ⟨-, rfl⟩ | ⟨name, s, -, -, hnew, rfl⟩
  · exact hp
  · exact hp.read_append (s := s) (Document.commit_eq_ok_iff.2 ⟨hnew, rfl⟩)

theorem resume_of_dropping (h : p.dropping) : p.resume o lines = p.close := by
  rw [resume, if_pos h]

theorem resume_of_not_open (name? : Option Text) (hd : p.dropping = false)
    (ho : p.open? = none) :
    p.resume o lines =
      match Block.firstEntry? ⟨name?, lines⟩ with
      | some n => .error (.entryOutsideSection n)
      | none => .ok p := by
  simp only [resume, hd, ho]
  rfl

theorem resume_of_open {s : Section} (hd : p.dropping = false) (ho : p.open? = some (name, s)) :
    p.resume o lines =
      { p with open? := some (name, s ++ (Block.mk (some name) lines).entries o) }.close := by
  simp [resume, hd, ho]

theorem resume_nil (p : Progress) : p.resume o [] = p.close := by
  unfold resume
  split
  · rfl
  · split
    next h => exact (close_of_open?_eq_none h).symm
    next name s h => simp [Block.entries, ← h]

theorem resume_cons_of_silent {line : Line} (he : Block.entryOf? o line = none)
    (hl : ∀ key value, line ≠ .entry key value) :
    p.resume o ((n, line) :: lines) = p.resume o lines := by
  have hfirst : Block.firstEntry? ⟨none, (n, line) :: lines⟩ = Block.firstEntry? ⟨none, lines⟩ := by
    cases line with
    | entry key value => exact absurd rfl (hl key value)
    | _ => rfl
  have hentries : ∀ name?, (Block.mk name? ((n, line) :: lines)).entries o =
      (Block.mk name? lines).entries o := by
    intro name?
    simp [Block.entries, he]
  simp only [resume, hfirst, hentries]

theorem resume_cons_of_open {line : Line} {e : Entry} (he : Block.entryOf? o line = some e)
    (hd : p.dropping = false) (ho : p.open?.isSome) :
    p.resume o ((n, line) :: lines) = (p.push e).resume o lines := by
  obtain ⟨⟨name, s⟩, hs⟩ := Option.isSome_iff_exists.1 ho
  simp [resume, push, hd, hs, Block.entries, he]

theorem push_of_not_open (ho : p.open? = none) (e : Entry) : p.push e = p := by
  obtain ⟨done, read, open?, dropping⟩ := p
  subst ho
  rfl

theorem resume_cons_bare (t : Text) :
    p.resume o ((n, .bare t) :: lines) =
      if o.keepBare && !p.dropping then (p.push (.ofBare t)).resume o lines
      else p.resume o lines := by
  split
  next h =>
    obtain ⟨hb, hd⟩ : o.keepBare = true ∧ p.dropping = false := by simpa using h
    cases ho : p.open? with
    | none => rw [push_of_not_open ho]; simp [resume, hd, ho, Block.firstEntry?]
    | some s =>
      exact resume_cons_of_open (by simp [Block.entryOf?, hb]) hd (by rw [ho]; rfl)
  next h =>
    by_cases hd : p.dropping
    · rw [resume_of_dropping hd, resume_of_dropping hd]
    · have hb : o.keepBare = false := by simpa [hd] using h
      exact resume_cons_of_silent (by simp [Block.entryOf?, hb]) (by simp)

theorem resume_cons_entry_of_not_open {key value : Text} (hd : p.dropping = false)
    (ho : p.open? = none) :
    p.resume o ((n, .entry key value) :: lines) = .error (.entryOutsideSection n) := by
  simp [resume, hd, ho, Block.firstEntry?]

end Progress

/-! ## The rest of a block, and the blocks behind it -/

/-- Reads the blocks behind a block that ended like this, or did not. -/
def readOn (o : Options) (p : Progress) (ended : Except Fault Progress) (blocks : List Block) :
    Parsed :=
  match ended with
  | .error fault => p.stop (some fault)
  | .ok q =>
    if blocks ≠ [] ∧ isComplete o q.read then q.stop none else Block.read o q.done blocks

variable {o : Options} {p q : Progress} {blocks : List Block} {b : Block} {d : Document}

theorem stop_eq (hp : p.Aligned) (fault? : Option Fault) :
    p.stop fault? = ⟨p.done, p.done.names, fault?⟩ := by
  rw [Progress.stop, show p.read = p.done.names from hp]

theorem readOn_ok (hq : q.Aligned) :
    readOn o p (.ok q) blocks =
      if blocks ≠ [] ∧ isComplete o q.done.names then ⟨q.done, q.done.names, none⟩
      else Block.read o q.done blocks := by
  unfold readOn
  simp only [stop_eq hq, show q.read = q.done.names from hq]

theorem readOn_error (hp : p.Aligned) (fault : Fault) :
    readOn o p (.error fault) blocks = ⟨p.done, p.done.names, some fault⟩ :=
  stop_eq hp (some fault)

theorem readOn_push (e : Entry) (ended : Except Fault Progress) :
    readOn o (p.push e) ended blocks = readOn o p ended blocks := rfl

/-- A section that was just opened ends as its block says. -/
theorem readOn_opened (hp : p.Aligned) (name : Text) (lines : List (Nat × Line))
    (blocks : List Block) :
    readOn o (p.opened o name) ((p.opened o name).resume o lines) blocks =
      Block.read o p.done (⟨some name, lines⟩ :: blocks) := by
  have ho : (p.opened o name).Aligned := hp
  by_cases hx : o.isExcluded name
  · -- the lines are dropped, and nothing was in the section
    rw [Progress.resume_of_dropping hx, Progress.close_opened, Block.read,
      Block.addTo_of_excluded rfl hx]
    exact readOn_ok ho
  · have hd : (p.opened o name).dropping = false := by simp [Progress.opened, hx]
    by_cases hn : name = []
    · subst hn
      rw [Progress.resume_of_not_open (some []) hd rfl, Block.read, Block.addTo_of_nil rfl hx,
        Block.addOutside]
      cases Block.firstEntry? ⟨some [], lines⟩ with
      | some n => exact readOn_error ho _
      | none => exact readOn_ok ho
    · have hopen : (p.opened o name).open? = some (name, []) := by simp [Progress.opened, hn]
      rw [Progress.resume_of_open hd hopen, Block.read, Block.addTo_of_kept rfl hx hn,
        List.nil_append]
      by_cases hs : (Block.mk (some name) lines).entries o = []
      · rw [hs, if_pos rfl, Progress.close_opened_empty rfl]
        exact readOn_ok ho
      · rw [if_neg hs, Progress.close_of_filled rfl hs]
        change readOn o _ ((p.done.commit name _).map _) _ = _
        cases hc : p.done.commit name ((Block.mk (some name) lines).entries o) with
        | error fault => exact readOn_error ho _
        | ok d => exact readOn_ok (hp.read_append hc)

/-- What the lines give from here on: the open section ends with the lines up to the next header,
and blocks follow. -/
theorem ofLinesFrom_eq (n : Nat) (lines : List Line) (hp : p.Aligned) :
    ofLinesFrom o n p lines =
      readOn o p (p.resume o (Block.cutFrom n lines).1) (Block.cutFrom n lines).2 := by
  induction lines generalizing n p with
  | nil =>
    rw [show Block.cutFrom n [] = ([], []) from rfl, Progress.resume_nil, ofLinesFrom]
    cases hc : p.close with
    | error fault => rfl
    | ok q =>
      rw [readOn_ok (hp.close hc), if_neg fun h => h.1 rfl]
      exact stop_eq (hp.close hc) none
  | cons line rest ih =>
    cases line with
    | skipped =>
      rw [ofLinesFrom, ih (n + 1) hp, Block.cutFrom_of_not_header n rest (by simp),
        Progress.resume_cons_of_silent rfl (by simp)]
    | entry key value =>
      rw [ofLinesFrom, Block.cutFrom_of_not_header n rest (by simp)]
      split
      next hd =>
        rw [ih (n + 1) hp, Progress.resume_of_dropping hd, Progress.resume_of_dropping hd]
      next hd =>
        have hd : p.dropping = false := by simpa using hd
        split
        next ho =>
          have ho : p.open? = none := by simpa using ho
          rw [Progress.resume_cons_entry_of_not_open hd ho]
          rfl
        next ho =>
          have ho : p.open?.isSome := by
            cases h : p.open? <;> simp_all
          rw [ih (n + 1) (p := p.push ⟨key, value⟩) hp, readOn_push,
            Progress.resume_cons_of_open rfl hd ho]
    | bare text =>
      rw [ofLinesFrom, Block.cutFrom_of_not_header n rest (by simp), Progress.resume_cons_bare]
      split
      · rw [ih (n + 1) (p := p.push (.ofBare text)) hp, readOn_push]
      · rw [ih (n + 1) hp]
    | header name =>
      rw [ofLinesFrom, Block.cutFrom_header, Progress.resume_nil]
      cases hc : p.close with
      | error fault => rfl
      | ok q =>
        have hq : q.Aligned := hp.close hc
        rw [readOn_ok hq]
        have hnext := readOn_opened (o := o) hq name (Block.cutFrom (n + 1) rest).1
          (Block.cutFrom (n + 1) rest).2
        rw [← hnext, ← ih (n + 1) (p := q.opened o name) hq]
        simp [show q.read = q.done.names from hq, stop_eq hq]

/-- Behind a header, the lines are read as its block and those that follow. -/
theorem ofLinesFrom_opened (hp : p.Aligned) (n : Nat) (name : Text) (rest : List Line) :
    ofLinesFrom o n (p.opened o name) rest =
      Block.read o p.done
        (⟨some name, (Block.cutFrom n rest).1⟩ :: (Block.cutFrom n rest).2) := by
  rw [ofLinesFrom_eq n rest (p := p.opened o name) hp, readOn_opened hp]

theorem ofLines_eq_read (o : Options) (lines : List Line) :
    ofLines o lines = Block.read o [] (Block.cut lines) := by
  rw [ofLines, Block.cut, ofLinesFrom_eq 1 lines (p := {}) rfl, Block.read]
  rw [Progress.resume_of_not_open none rfl rfl, Block.addTo, Block.addOutside]
  cases Block.firstEntry? ⟨none, (Block.cutFrom 1 lines).1⟩ <;> rfl

/-- **A text says line by line what it says block by block.** -/
theorem ofText_eq_ofBlocks (o : Options) (t : Text) : ofText o t = ofBlocks o t :=
  ofLines_eq_read o _

end Parsed

/-- Whatever an editor held before, a text that it reads leaves what the text says block by block:
the sections, their names, no snapshot, and the reply. -/
theorem Editor.parse_eq_ofBlocks (e : Editor) (t : Text) :
    e.parse t =
      (match (Parsed.ofBlocks e.options t).fault? with
        | none => .ok .nothing
        | some fault => .error fault,
       { e with
          content := { document := (Parsed.ofBlocks e.options t).document, snapshot := .vacant }
          parsed := (Parsed.ofBlocks e.options t).fault?.isNone
          readNames := (Parsed.ofBlocks e.options t).document.names }) := by
  have hnames : (Parsed.ofBlocks e.options t).readNames =
      (Parsed.ofBlocks e.options t).document.names := Block.readNames_read _ _ _
  unfold parse
  dsimp only
  rw [Parsed.ofText_eq_ofBlocks, hnames]
  cases (Parsed.ofBlocks e.options t).fault? <;> rfl

/-! ## What reading block by block gives -/

/-- All entries of a document, section by section. -/
def Document.entries (d : Document) : List Entry := d.flatMap (·.2)

namespace Block

variable {o : Options} {d : Document} {blocks : List Block} {x : Text × Section}

/-- What holds of a document and is kept by each block holds of the document after the blocks. -/
theorem read_induction {P : Document → Prop} (h : P d)
    (hadd : ∀ b ∈ blocks, ∀ d d', P d → b.addTo o d = .ok d' → P d') :
    P (read o d blocks).document := by
  induction blocks generalizing d with
  | nil => exact h
  | cons b rest ih =>
    rw [read]
    split
    · exact h
    next d' hd' =>
      have h' : P d' := hadd b List.mem_cons_self d d' h hd'
      split
      · exact h'
      · exact ih h' fun b hb => hadd b (List.mem_cons_of_mem _ hb)

/-- Without names to keep, the reading goes on behind a block that is read. -/
theorem read_cons_of_ok {b : Block} {d' : Document} (hi : o.included = [])
    (h : b.addTo o d = .ok d') : read o d (b :: blocks) = read o d' blocks := by
  have hgo : Parsed.isComplete o d'.names = false := Parsed.isComplete_of_included_eq_nil hi _
  rw [read, h]
  dsimp only
  rw [hgo, if_neg (by simp)]

theorem read_cons_of_error {b : Block} {fault : Fault} (h : b.addTo o d = .error fault) :
    read o d (b :: blocks) = ⟨d, d.names, some fault⟩ := by
  rw [read, h]

theorem nodup_addTo {b : Block} {d' : Document} (hd : d.names.Nodup) (h : b.addTo o d = .ok d') :
    d'.names.Nodup := by
  rcases addTo_eq_ok h with rfl | ⟨name, -, -, -, -, hnew, rfl⟩
  · exact hd
  · exact Document.nodup_names_concat hd hnew

theorem nodup_read (h : d.names.Nodup) : (read o d blocks).document.names.Nodup :=
  read_induction (P := fun d => d.names.Nodup) h fun _ _ _ _ hd hadd => nodup_addTo hd hadd

/-- A section was there before the blocks or is what one of them says. -/
theorem mem_read (hx : x ∈ (read o d blocks).document) :
    x ∈ d ∨ ∃ b ∈ blocks, b.name? = some x.1 ∧ o.isExcluded x.1 = false ∧ x.1 ≠ [] ∧ x.2 ≠ [] ∧
      x.2 = b.entries o := by
  revert hx
  refine read_induction (P := fun d' => x ∈ d' → _) Or.inl ?_
  intro b hb d₁ d₂ hd hadd hx
  rcases addTo_eq_ok hadd with rfl | ⟨name, hname, hkept, hne, hs, -, rfl⟩
  · exact hd hx
  · rcases List.mem_append.1 hx with hx | hx
    · exact hd hx
    · rw [List.mem_singleton.1 hx]
      exact Or.inr ⟨b, hb, hname, hkept, hne, hs, rfl⟩

/-- The entries of the blocks are those of the lines. -/
theorem entries_eq_filterMap (o : Options) (b : Block) :
    b.entries o = b.allLines.filterMap (entryOf? o) := by
  have hheader : (b.name?.toList.map Line.header).filterMap (entryOf? o) = [] := by
    cases b.name? <;> rfl
  rw [allLines, List.filterMap_append, hheader, List.nil_append, List.filterMap_map]
  rfl

theorem flatMap_entries_cut (o : Options) (lines : List Line) :
    (cut lines).flatMap (entries o) = lines.filterMap (entryOf? o) := by
  calc
    (cut lines).flatMap (entries o)
    _ = (cut lines).flatMap fun b => b.allLines.filterMap (entryOf? o) := by
      rw [funext (entries_eq_filterMap o)]
    _ = ((cut lines).flatMap allLines).filterMap (entryOf? o) := List.filterMap_flatMap.symm
    _ = lines.filterMap (entryOf? o) := by rw [allLines_cut]

/-- Entries are dropped or kept, but not moved. -/
theorem sublist_read (o : Options) (d : Document) (blocks : List Block) :
    (read o d blocks).document.entries.Sublist (d.entries ++ blocks.flatMap (entries o)) := by
  induction blocks generalizing d with
  | nil => simp [read]
  | cons b rest ih =>
    have hfirst : d.entries.Sublist (d.entries ++ (b :: rest).flatMap (entries o)) :=
      List.sublist_append_left _ _
    rw [read]
    split
    · exact hfirst
    next d' hadd =>
      have hd' : d'.entries.Sublist (d.entries ++ b.entries o) := by
        rcases addTo_eq_ok hadd with rfl | ⟨name, -, -, -, -, -, rfl⟩
        · exact List.sublist_append_left _ _
        · simp [Document.entries]
      have hrest : (d'.entries ++ rest.flatMap (entries o)).Sublist
          (d.entries ++ (b :: rest).flatMap (entries o)) := by
        rw [List.flatMap_cons, ← List.append_assoc]
        exact hd'.append_right _
      split
      · exact (List.sublist_append_left _ _).trans hrest
      · exact (ih d').trans hrest

/-- A section of the lines has a header and its entries among the lines. -/
theorem mem_read_cut {lines : List Line} (hx : x ∈ (read o [] (cut lines)).document) :
    o.isExcluded x.1 = false ∧ x.1 ≠ [] ∧ x.2 ≠ [] ∧ .header x.1 ∈ lines ∧
      ∀ e ∈ x.2, ∃ line ∈ lines, entryOf? o line = some e := by
  rcases mem_read hx with hx | ⟨b, hb, hname, hkept, hne, hs, hentries⟩
  · cases hx
  · have hlines : ∀ line ∈ b.allLines, line ∈ lines := by
      intro line hline
      rw [← allLines_cut lines]
      exact List.mem_flatMap.2 ⟨b, hb, hline⟩
    refine ⟨hkept, hne, hs, hlines _ ?_, fun e he => ?_⟩
    · rw [allLines, hname]
      exact List.mem_append_left _ (List.mem_singleton.2 rfl)
    · rw [hentries, entries_eq_filterMap] at he
      obtain ⟨line, hline, he⟩ := List.mem_filterMap.1 he
      exact ⟨line, hlines line hline, he⟩

theorem nil_not_mem_names_read (o : Options) (lines : List Line) :
    [] ∉ (read o [] (cut lines)).document.names := by
  intro hmem
  obtain ⟨x, hx, hname⟩ := List.mem_map.1 hmem
  exact (mem_read_cut hx).2.1 hname

end Block

/-- No name comes twice in a document that was read. -/
theorem Parsed.nodup_ofText (o : Options) (t : Text) : (ofText o t).document.names.Nodup := by
  rw [ofText_eq_ofBlocks]
  exact Block.nodup_read List.nodup_nil

theorem Parsed.nil_not_mem_names_ofText (o : Options) (t : Text) :
    [] ∉ (ofText o t).document.names := by
  rw [ofText_eq_ofBlocks]
  exact Block.nil_not_mem_names_read o _

theorem Parsed.readNames_ofText (o : Options) (t : Text) :
    (ofText o t).readNames = (ofText o t).document.names := by
  rw [ofText_eq_ofBlocks]
  exact Block.readNames_read _ _ _

theorem Parsed.ofText_of_prepare?_eq_none {o : Options} (ho : o.prepare? = none) (t : Text) :
    ofText o t = ofLines o (t.lines.map Line.classify) := by
  rw [ofText, Options.prepared, ho]

/-! ## What an editor holds of a text -/

/-- The reply to a text of which this was read. -/
def Parsed.reply (p : Parsed) : Reply :=
  match p.fault? with
  | none => .ok .nothing
  | some fault => .error fault

theorem Parsed.reply_eq_mapError {p q : Parsed} {f : Fault → Fault}
    (h : q.fault? = p.fault?.map f) : q.reply = p.reply.mapError f := by
  rw [reply, reply, h]
  cases p.fault? <;> rfl

namespace Editor

variable {e : Editor} {t : Text} {fault : Fault}

theorem parse_eq (e : Editor) (t : Text) :
    e.parse t =
      ((Parsed.ofText e.options t).reply,
       { e with
          content := { document := (Parsed.ofText e.options t).document }
          parsed := (Parsed.ofText e.options t).fault?.isNone
          readNames := (Parsed.ofText e.options t).readNames }) := by
  unfold parse Parsed.reply
  dsimp only
  cases (Parsed.ofText e.options t).fault? <;> rfl

theorem fst_parse (e : Editor) (t : Text) : (e.parse t).1 = (Parsed.ofText e.options t).reply := by
  rw [parse_eq]

theorem document_parse (e : Editor) (t : Text) :
    (e.parse t).2.document = (Parsed.ofText e.options t).document := by
  rw [parse_eq]
  rfl

theorem parsed_parse (e : Editor) (t : Text) :
    (e.parse t).2.parsed = (Parsed.ofText e.options t).fault?.isNone := by
  rw [parse_eq]

theorem readNames_parse (e : Editor) (t : Text) :
    (e.parse t).2.readNames = (e.parse t).2.document.names := by
  rw [document_parse, ← Parsed.readNames_ofText, parse_eq]

theorem snapshot_parse (e : Editor) (t : Text) : (e.parse t).2.content.snapshot = .vacant := by
  rw [parse_eq]

theorem current?_parse (e : Editor) (t : Text) : (e.parse t).2.current? = e.current? := by
  rw [parse_eq]
  rfl

theorem parse_fst_eq_ok_iff :
    (e.parse t).1 = .ok .nothing ↔ (Parsed.ofText e.options t).fault? = none := by
  rw [fst_parse, Parsed.reply]
  cases (Parsed.ofText e.options t).fault? <;> simp

theorem parse_fst_eq_error_iff :
    (e.parse t).1 = .error fault ↔ (Parsed.ofText e.options t).fault? = some fault := by
  rw [fst_parse, Parsed.reply]
  cases (Parsed.ofText e.options t).fault? <;> simp

end Editor

end IniConfig
