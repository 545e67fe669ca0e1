import IniConfig.Proofs.LineByLine

/-!
# The order of the names to keep

Which sections are dropped depends on the set of names to keep. Their order, and how often a name is
said, decides only where the reading ends early: at a header before which the sections that were read
are just those to keep, in their order. With the names in another order the reading may go on there,
but finds nothing more to keep. Each name that is not dropped is there already, and no header says
one of these names unless its section has no entries or is a fault; and `[]`, which would let the
entries behind it be a fault of their own, is dropped, since no section has the empty name
(`read_of_complete`). So two readings differ in the reply at most.
-/

namespace IniConfig

/-- The two keep the same lines and the same sections; the names to keep may come in any order and
any number of times. -/
structure Options.SameSelection (o o' : Options) : Prop where
  keepBare : o.keepBare = o'.keepBare
  excluded : o.excluded = o'.excluded
  included : ∀ name, name ∈ o.included ↔ name ∈ o'.included

namespace Options.SameSelection

variable {o o' : Options}

theorem symm (h : o.SameSelection o') : o'.SameSelection o :=
  ⟨h.keepBare.symm, h.excluded.symm, fun name => (h.included name).symm⟩

theorem included_eq_nil_iff (h : o.SameSelection o') : o.included = [] ↔ o'.included = [] := by
  simp only [List.eq_nil_iff_forall_not_mem, h.included]

theorem isExcluded_eq (h : o.SameSelection o') : o.isExcluded = o'.isExcluded := by
  funext name
  rw [Bool.eq_iff_iff, isExcluded_iff, isExcluded_iff, h.excluded, ne_eq, ne_eq,
    h.included_eq_nil_iff, h.included]

theorem opened_eq (h : o.SameSelection o') (p : Parsed.Progress) (name : Text) :
    p.opened o name = p.opened o' name := by
  rw [Parsed.Progress.opened, Parsed.Progress.opened, h.isExcluded_eq]

end Options.SameSelection

variable {o o' : Options} {d d' : Document} {name : Text}

namespace Parsed

/-- The reading goes up to a header, where the sections that were read are just those to keep. -/
def EndsEarly (o : Options) (lines : List Line) : Prop :=
  ∃ before name after, lines = before ++ .header name :: after ∧
    (ofLines o before).fault? = none ∧ isComplete o (ofLines o before).readNames

end Parsed

/-! ## What is left when all sections to keep are there -/

namespace Block

variable {b : Block} {blocks : List Block}

theorem isSome_name?_of_mem_cutFrom {n : Nat} {lines : List Line}
    (hb : b ∈ (cutFrom n lines).2) : b.name?.isSome := by
  induction lines generalizing n with
  | nil => cases hb
  | cons line rest ih =>
    cases line with
    | header name =>
      rw [cutFrom_header] at hb
      rcases List.mem_cons.1 hb with rfl | hb
      · rfl
      · exact ih hb
    | _ => exact ih hb

theorem addTo_of_complete (h : o.SameSelection o') (hc : Parsed.isComplete o d.names = true)
    (hd : [] ∉ d.names) (hb : b.name?.isSome) :
    b.addTo o' d = .ok d ∨ ∃ name, b.addTo o' d = .error (.duplicateSection name) := by
  obtain ⟨name, hname⟩ := Option.isSome_iff_exists.1 hb
  cases hx : o'.isExcluded name with
  | true => exact Or.inl (addTo_of_excluded hname hx)
  | false =>
    -- a name that is not dropped is to keep, and so it is there
    have hthere : name ∈ d.names := by
      rw [← h.isExcluded_eq] at hx
      exact Parsed.mem_of_isComplete hc hx
    have hne : name ≠ [] := by
      rintro rfl
      exact hd hthere
    rw [addTo_of_kept hname (by simp [hx]) hne]
    split
    · exact Or.inl rfl
    · exact Or.inr ⟨name, if_pos (Document.contains_iff_mem_names.2 hthere)⟩

theorem read_of_complete (h : o.SameSelection o') (hc : Parsed.isComplete o d.names = true)
    (hd : [] ∉ d.names) (hblocks : ∀ b ∈ blocks, b.name?.isSome) :
    (read o' d blocks).document = d ∧
      ((read o' d blocks).fault? = none ∨
        ∃ name, (read o' d blocks).fault? = some (.duplicateSection name)) := by
  induction blocks with
  | nil => exact ⟨rfl, Or.inl rfl⟩
  | cons b rest ih =>
    have hrest := ih fun b hb => hblocks b (List.mem_cons_of_mem _ hb)
    rcases addTo_of_complete h hc hd (hblocks b List.mem_cons_self) with hadd | ⟨name, hadd⟩
    · rw [read, hadd]
      dsimp only
      split
      · exact ⟨rfl, Or.inl rfl⟩
      · exact hrest
    · rw [read, hadd]
      exact ⟨rfl, Or.inr ⟨name, rfl⟩⟩

end Block

namespace Parsed

/-! ## Two readings side by side -/

namespace Progress

variable {p q : Progress} {lines : List Line} {line : Line}

/-- Both readings pass the lines up to a header, and the first ends there. -/
def CompletesAt (o o' : Options) (lines : List Line) : Prop :=
  ∃ before name after p q, lines = before ++ .header name :: after ∧ PassesAll o {} before p ∧
    PassesAll o' {} before p ∧ p.close = .ok q ∧ isComplete o q.read = true

theorem CompletesAt.append (h : CompletesAt o o' lines) (more : List Line) :
    CompletesAt o o' (lines ++ more) := by
  obtain ⟨before, name, after, p, q, rfl, hp, hp', hc, hi⟩ := h
  exact ⟨before, name, after ++ more, p, q, by simp, hp, hp', hc, hi⟩

/-- A line that one reading passes is passed by the other, unless it is a header at which the other
ends. -/
theorem Passes.of_sameSelection (h : o.SameSelection o') (hp : Passes o p line q) :
    Passes o' p line q ∨
      ∃ name r, line = .header name ∧ p.close = .ok r ∧ isComplete o' r.read = true := by
  cases hp with
  | skipped => exact Or.inl .skipped
  | dropped hd => exact Or.inl (.dropped hd)
  | entry hd ho => exact Or.inl (.entry hd ho)
  | lost hb => exact Or.inl (.lost (h.keepBare ▸ hb))
  | bare hb => exact Or.inl (.bare (h.keepBare ▸ hb))
  | @header name r hc =>
    cases hi : isComplete o' r.read with
    | true => exact Or.inr ⟨name, r, rfl, hc, hi⟩
    | false =>
      rw [h.opened_eq]
      exact Or.inl (.header hc hi)

theorem PassesAll.of_sameSelection (h : o.SameSelection o') (hp : PassesAll o {} lines p) :
    PassesAll o' {} lines p ∨ CompletesAt o' o lines := by
  -- by the last line: the other reading has come to it, or has ended before
  induction hp with
  | nil => exact Or.inl .nil
  | @concat lines line q r hlines hline ih =>
    rcases ih with hlines' | hends
    · rcases hline.of_sameSelection h with hline' | ⟨name, s, rfl, hc, hi⟩
      · exact Or.inl (.concat hlines' hline')
      · exact Or.inr ⟨lines, name, [], q, s, rfl, hlines', hlines, hc, hi⟩
    · exact Or.inr (hends.append [line])

end Progress

open Progress

variable {lines : List Line}

/-- Two readings are the same unless one of them ends early where the other may go on. -/
theorem ofLines_eq_or_completesAt (h : o.SameSelection o') (lines : List Line) :
    ofLines o lines = ofLines o' lines ∨ CompletesAt o o' lines ∨ CompletesAt o' o lines := by
  rcases passesAll_or_halts o 1 {} lines with
    ⟨p, hp⟩ | ⟨before, line, after, p, result, rfl, hp, hhalt⟩
  · rcases hp.of_sameSelection h with hp' | hends
    · left
      rw [ofLines, ofLines, hp.ofLinesFrom_eq, hp'.ofLinesFrom_eq]
    · exact Or.inr (Or.inr hends)
  · rcases hp.of_sameSelection h with hp' | hends
    · have hsame : ∀ {result}, Halts o (1 + before.length) p line result →
          Halts o' (1 + before.length) p line result →
          ofLines o (before ++ line :: after) = ofLines o' (before ++ line :: after) := by
        intro result hhalt hhalt'
        rw [ofLines, ofLines, hp.ofLinesFrom_append, hp'.ofLinesFrom_append,
          hhalt.ofLinesFrom_cons, hhalt'.ofLinesFrom_cons]
      cases hhalt with
      | outside hd ho => exact Or.inl (hsame (.outside hd ho) (.outside hd ho))
      | refused hc => exact Or.inl (hsame (.refused hc) (.refused hc))
      | @complete name q hc hi =>
        exact Or.inr (Or.inl ⟨before, name, after, p, q, rfl, hp, hp', hc, hi⟩)
    · exact Or.inr (Or.inr (hends.append (line :: after)))

/-- Where one reading ends early, the other adds nothing and finds at most a section that is there
already. -/
theorem Progress.CompletesAt.ofLines_eq (h : o.SameSelection o') (hends : CompletesAt o o' lines) :
    EndsEarly o lines ∧ (ofLines o lines).fault? = none ∧
      (ofLines o' lines).document = (ofLines o lines).document ∧
      ((ofLines o' lines).fault? = none ∨
        ∃ name, (ofLines o' lines).fault? = some (.duplicateSection name)) := by
  obtain ⟨before, name, after, p, q, rfl, hp, hp', hc, hi⟩ := hends
  have hq : q.Aligned := (hp.aligned rfl).close hc
  have hbefore : ofLines o before = q.stop none := by
    rw [ofLines, hp.ofLinesFrom_eq, hc]
  have hall : ofLines o (before ++ .header name :: after) = q.stop none := by
    rw [ofLines, hp.ofLinesFrom_append, (Halts.complete hc hi).ofLinesFrom_cons]
  have hearly : EndsEarly o (before ++ .header name :: after) := by
    refine ⟨before, name, after, rfl, ?_, ?_⟩
    · rw [hbefore]
      rfl
    · rw [hbefore]
      exact hi
  refine ⟨hearly, by rw [hall]; rfl, ?_⟩
  rw [hall, ofLines, hp'.ofLinesFrom_append]
  cases hi' : isComplete o' q.read with
  | true =>
    rw [(Halts.complete hc hi').ofLinesFrom_cons]
    exact ⟨rfl, Or.inl rfl⟩
  | false =>
    have hnames : isComplete o q.done.names = true := by
      rwa [show q.read = q.done.names from hq] at hi
    have hnil : [] ∉ q.done.names := by
      have hread := Block.nil_not_mem_names_read o before
      rw [← ofLines_eq_read, hbefore] at hread
      exact hread
    rw [(Passes.header hc hi').ofLinesFrom_cons, ofLinesFrom_opened hq]
    apply Block.read_of_complete h hnames hnil
    intro b hb
    rcases List.mem_cons.1 hb with rfl | hb
    · rfl
    · exact Block.isSome_name?_of_mem_cutFrom hb

end Parsed

namespace Editor

variable {e e' : Editor} {t : Text}

/-- The first editor reads no further than a header, and the second finds a section behind it that
is there already. -/
def EndsBeforeDuplicate (e e' : Editor) (t : Text) : Prop :=
  (e.parse t).1 = .ok .nothing ∧ Parsed.EndsEarly e.options (t.lines.map Line.classify) ∧
    ∃ name, (e'.parse t).1 = .error (.duplicateSection name)

theorem parse_of_completesAt (ho : e.options.prepare? = none) (ho' : e'.options.prepare? = none)
    (h : e.options.SameSelection e'.options)
    (hends : Parsed.Progress.CompletesAt e.options e'.options (t.lines.map Line.classify)) :
    (e.parse t).2.document = (e'.parse t).2.document ∧
      ((e.parse t).1 = (e'.parse t).1 ∨ e.EndsBeforeDuplicate e' t) := by
  obtain ⟨hearly, hfault, hdocument, hother⟩ := hends.ofLines_eq h
  rw [← Parsed.ofText_of_prepare?_eq_none ho] at hfault hdocument
  rw [← Parsed.ofText_of_prepare?_eq_none ho'] at hdocument hother
  have hread : (e.parse t).1 = .ok .nothing := parse_fst_eq_ok_iff.2 hfault
  rw [document_parse, document_parse]
  refine ⟨hdocument.symm, ?_⟩
  rcases hother with hnone | ⟨name, htwice⟩
  · left
    rw [hread, parse_fst_eq_ok_iff.2 hnone]
  · exact Or.inr ⟨hread, hearly, name, parse_fst_eq_error_iff.2 htwice⟩

/-- **The order of the names to keep does not matter to what is read, nor how often a name is said;
and to the reply only where one reading ends early and the other finds a section twice.** -/
theorem parse_of_sameSelection (ho : e.options.prepare? = none) (ho' : e'.options.prepare? = none)
    (h : e.options.SameSelection e'.options) (t : Text) :
    (e.parse t).2.document = (e'.parse t).2.document ∧
      (e.parse t).2.readNames = (e'.parse t).2.readNames ∧
      ((e.parse t).1 = (e'.parse t).1 ∨ e.EndsBeforeDuplicate e' t ∨
        e'.EndsBeforeDuplicate e t) := by
  rw [readNames_parse, readNames_parse]
  rcases Parsed.ofLines_eq_or_completesAt h (t.lines.map Line.classify) with hsame | hends | hends
  · rw [← Parsed.ofText_of_prepare?_eq_none ho, ← Parsed.ofText_of_prepare?_eq_none ho'] at hsame
    rw [document_parse, document_parse, fst_parse, fst_parse, hsame]
    exact ⟨rfl, rfl, Or.inl rfl⟩
  · obtain ⟨hdocument, hreply⟩ := parse_of_completesAt ho ho' h hends
    rw [hdocument]
    exact ⟨rfl, rfl, hreply.imp_right Or.inl⟩
  · obtain ⟨hdocument, hreply⟩ := parse_of_completesAt ho' ho h.symm hends
    rw [hdocument]
    exact ⟨rfl, rfl, hreply.imp Eq.symm Or.inr⟩

end Editor

/-- With `a` and `b` to keep, the reading ends at the header of `c`; with the two the other way
round, it goes on to the second `a`. -/
theorem parse_of_sameSelection_two_orders :
    let e := Editor.new { included := ["a".toList, "b".toList] }
    let e' := Editor.new { included := ["b".toList, "a".toList, "a".toList] }
    let t : Text := "[a]\nx = 1\n[b]\ny = 2\n[c]\n[]\nv = 3\n[a]\nz = 4".toList
    e.options.SameSelection e'.options ∧
      (e'.parse t).1 = .error (.duplicateSection "a".toList) ∧
      e.EndsBeforeDuplicate e' t ∧
      (e'.parse t).2.document =
        [("a".toList, [⟨"x".toList, "1".toList⟩]), ("b".toList, [⟨"y".toList, "2".toList⟩])] := by
  intro e e' t
  have hsame : e.options.SameSelection e'.options := by
    refine ⟨rfl, rfl, fun name => ?_⟩
    simp only [e, e', Editor.new, List.mem_cons, List.not_mem_nil, or_false]
    tauto
  have hread : (e.parse t).1 = .ok .nothing := rfl
  have htwice : (e'.parse t).1 = .error (.duplicateSection "a".toList) := rfl
  obtain ⟨hdocument, -, hreply⟩ := Editor.parse_of_sameSelection rfl rfl hsame t
  refine ⟨hsame, htwice, ?_, hdocument.symm⟩
  rcases hreply with hequal | hends | ⟨hread', -⟩
  · rw [hread, htwice] at hequal
    cases hequal
  · exact hends
  · rw [htwice] at hread'
    cases hread'

end IniConfig
