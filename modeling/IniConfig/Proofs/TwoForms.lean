import IniConfig.Access

/-!
# The two forms of a request about a section

In the form with a name, a question is answered in the entries of that section (`askNamed_eq`), and
a change is made in the document (`editNamed_eq`). The form for the current section does what the
other does with the name of that section; without one it gives the empty value of its type or is
refused, and leaves the editor as it is. This is shown for each pair of forms (`FormsAgree`), whose
bodies differ, and all that is proved of requests rests on it: whichever form is meant, a request
does what its address says (`ask_of_resolve`, `entries_of_resolve`, `edit_of_resolve`).
-/

namespace IniConfig

namespace Query

/-- The empty answer to a question. -/
def blank : Query → Answer
  | hasKey _ | hasPrefix _ | flag _ => .truth false
  | size => .count 0
  | valuesWithPrefix _ => .texts []
  | value _ | firstWithPrefix _ => .text []
  | long _ => .value (.integer 0)
  | double _ => .value (.double (.zero .double false))
  | list _ _ _ => .values []
  | array _ _ kind n => .values (List.replicate n kind.default)

theorem absent_eq_blank (q : Query) : q.absent = q.blank := by
  cases q with
  | array key separator kind n => exact congrArg Answer.values (Separated.firstOf_nil kind n)
  | _ => rfl

end Query

/-- Makes the change in the section of this name, and answers how many entries went if all of a
key were to go. -/
def Edit.apply (c : CachedDocument) (name : Text) : Edit → Except Fault (Answer × CachedDocument)
  | add key payload => .ok (.nothing, c.append name ⟨key, payload.write⟩)
  | erase key => (c.erase name key).map fun (n, c) => (.count n, c)
  | eraseFirst key => (c.eraseFirst name key).map fun (_, c) => (.nothing, c)

namespace Editor

variable {e : Editor} {a : Address} {name : Text} {change : Edit}

/-! ## The form with a name -/

/-- What is read where there is no section is what is read of a section without entries. -/
theorem getD_fst_read {α : Type} (e : Editor) (name : Text) {f : Section → α} {default : α}
    (h : f [] = default) : (e.read name f).1.getD default = f ((e.fetch name).1.getD []) := by
  unfold read
  cases hf : e.fetch name with
  | mk s? e' =>
    cases s? with
    | none => exact h.symm
    | some s => rfl

theorem getD_join_fst_read {α : Type} (e : Editor) (name : Text) {f : Section → Option α}
    {default : α} (h : f [] = none) :
    (e.read name f).1.join.getD default = (f ((e.fetch name).1.getD [])).getD default := by
  unfold read
  cases hf : e.fetch name with
  | mk s? e' =>
    cases s? with
    | none => simp [Prod.map, h]
    | some s => rfl

theorem value_eq (e : Editor) (name key : Text) :
    e.value name key = (Query.valueOf ((e.fetch name).1.getD []) key, (e.fetch name).2) :=
  Prod.ext (e.getD_join_fst_read name rfl) rfl

/-- **A question about a section of a name** is answered in its entries; without the section, or as
long as the content does not count, as in a section without entries. -/
theorem askNamed_eq (e : Editor) (name : Text) (q : Query) :
    e.askNamed name q = (q.answer ((e.fetch name).1.getD []), (e.fetch name).2) := by
  cases q with
  | hasKey key =>
    exact Prod.ext (congrArg Answer.truth (e.getD_fst_read name rfl)) rfl
  | hasPrefix start =>
    exact Prod.ext (congrArg Answer.truth (e.getD_fst_read name rfl)) rfl
  | size => exact Prod.ext (congrArg Answer.count (e.getD_fst_read name rfl)) rfl
  | valuesWithPrefix start =>
    exact Prod.ext (congrArg Answer.texts (e.getD_fst_read name rfl)) rfl
  | firstWithPrefix start =>
    exact Prod.ext (congrArg Answer.text (e.getD_join_fst_read name rfl)) rfl
  | value key => rw [askNamed, value_eq]; rfl
  | flag key => rw [askNamed, flag, value_eq]; rfl
  | long key => rw [askNamed, long, value_eq]; rfl
  | double key => rw [askNamed, double, value_eq]; rfl
  | list key separator k => rw [askNamed, list, value_eq]; rfl
  | array key separator k n => rw [askNamed, array, value_eq]; rfl

theorem allEntries_eq (e : Editor) (name : Text) :
    e.allEntries name =
      if e.parsed then
        ((e.fetch name).1.elim (.error (.sectionNotFound name)) .ok, (e.fetch name).2)
      else (.error .nothingParsed, e) := by
  unfold allEntries read
  cases e.fetch name with
  | mk s? e' => cases s? <;> rfl

theorem editNamed_add (e : Editor) (name key : Text) (payload : Payload) :
    e.editNamed name (.add key payload) = (.ok .nothing, e.set name key payload.write) := by
  cases payload with
  | list separator values => rfl
  | one value => cases value <;> rfl

/-- **A change to the section of a name** is made in the document, unless it is refused there. -/
theorem editNamed_eq (e : Editor) (name : Text) (change : Edit) :
    e.editNamed name change =
      match change.apply e.content name with
      | .error fault => (.error fault, e)
      | .ok (answer, c) =>
        (.ok answer, { e with content := c, parsed := e.parsed || change.isAdd }) := by
  cases change with
  | add key payload => simp only [editNamed_add, set, Edit.apply, Edit.isAdd, Bool.or_true]
  | erase key =>
    simp only [editNamed, erase, Edit.apply]
    cases e.content.erase name key with
    | error fault => rfl
    | ok r => simp [Prod.map, Except.map, Edit.isAdd]
  | eraseFirst key =>
    simp only [editNamed, eraseFirst, Edit.apply]
    cases e.content.eraseFirst name key with
    | error fault => rfl
    | ok r => simp [Prod.map, Except.map, Edit.isAdd]

/-! ## The form for the current section -/

/-- What a step does with the name of the current section; without one, this is given and nothing
changes. -/
def atCurrent {α : Type} (e : Editor) (without : α) (step : Text → α × Editor) : α × Editor :=
  e.current?.elim (without, e) step

theorem atCurrent_of_none {α : Type} (h : e.current? = none) (without : α)
    (step : Text → α × Editor) : e.atCurrent without step = (without, e) := by
  rw [atCurrent, h, Option.elim_none]

theorem atCurrent_of_some {α : Type} (h : e.current? = some name) (without : α)
    (step : Text → α × Editor) : e.atCurrent without step = step name := by
  rw [atCurrent, h, Option.elim_some]

theorem map_atCurrent {α β : Type} (f : α → β) (without : α) (step : Text → α × Editor) :
    (e.atCurrent without step).map f id =
      e.atCurrent (f without) fun name => (step name).map f id := by
  unfold atCurrent
  cases e.current? <;> rfl

theorem getD_map_current? {α : Type} (without : α) (step : Text → α × Editor) :
    (e.current?.map step).getD (without, e) = e.atCurrent without step := by
  unfold atCurrent
  cases e.current? <;> rfl

/-- A form that asks for the current section first. -/
theorem match_requireCurrent {α : Type} (step : Text → Except Fault α × Editor) :
    (match e.requireCurrent with
      | .error fault => (.error fault, e)
      | .ok name => step name) = e.atCurrent (.error .noCurrentSection) step := by
  unfold requireCurrent atCurrent
  cases e.current? <;> rfl

theorem valueCurrent_eq (e : Editor) (key : Text) :
    e.valueCurrent key = e.atCurrent [] fun name => e.value name key :=
  getD_map_current? _ _

theorem setCurrent_eq (e : Editor) (key value : Text) :
    e.setCurrent key value =
      e.atCurrent (.error .noCurrentSection) fun name => (.ok (), e.set name key value) :=
  match_requireCurrent _

/-- Each form for the current section does what the form with a name does with the name of that
section. Without one, a reading form gives the empty or default value of its type, and the others
are refused; the editor is then as it was. -/
structure FormsAgree (e : Editor) : Prop where
  hasKey : ∀ key, e.hasKeyCurrent key = e.atCurrent false fun name => e.hasKey name key
  hasPrefix : ∀ start,
    e.hasPrefixCurrent start = e.atCurrent false fun name => e.hasPrefix name start
  allEntries : e.allEntriesCurrent = e.atCurrent (.error .noCurrentSection) e.allEntries
  valuesWithPrefix : ∀ start,
    e.valuesWithPrefixCurrent start = e.atCurrent [] fun name => e.valuesWithPrefix name start
  value : ∀ key, e.valueCurrent key = e.atCurrent [] fun name => e.value name key
  firstWithPrefix : ∀ start,
    e.firstWithPrefixCurrent start = e.atCurrent [] fun name => e.firstWithPrefix name start
  flag : ∀ key, e.flagCurrent key = e.atCurrent false fun name => e.flag name key
  long : ∀ key, e.longCurrent key = e.atCurrent (.integer 0) fun name => e.long name key
  double : ∀ key, e.doubleCurrent key =
    e.atCurrent (.double (.zero .double false)) fun name => e.double name key
  list : ∀ key separator k, e.listCurrent key separator k =
    e.atCurrent [] fun name => e.list name key separator k
  array : ∀ key separator k n, e.arrayCurrent key separator k n =
    e.atCurrent (List.replicate n k.default) fun name => e.array name key separator k n
  set : ∀ key value, e.setCurrent key value =
    e.atCurrent (.error .noCurrentSection) fun name => (.ok (), e.set name key value)
  setFlag : ∀ key b, e.setFlagCurrent key b =
    e.atCurrent (.error .noCurrentSection) fun name => (.ok (), e.setFlag name key b)
  setLong : ∀ key n, e.setLongCurrent key n =
    e.atCurrent (.error .noCurrentSection) fun name => (.ok (), e.setLong name key n)
  setDouble : ∀ key x, e.setDoubleCurrent key x =
    e.atCurrent (.error .noCurrentSection) fun name => (.ok (), e.setDouble name key x)
  setList : ∀ key separator values, e.setListCurrent key separator values =
    e.atCurrent (.error .noCurrentSection) fun name =>
      (.ok (), e.setList name key separator values)
  erase : ∀ key,
    e.eraseCurrent key = e.atCurrent (.error .noCurrentSection) fun name => e.erase name key
  eraseFirst : ∀ key, e.eraseFirstCurrent key =
    e.atCurrent (.error .noCurrentSection) fun name => e.eraseFirst name key

/-- **The two forms agree**, whatever has become of the content and of the current section. -/
theorem formsAgree (e : Editor) : e.FormsAgree := by
  constructor
  case hasKey => intro key; rfl
  case hasPrefix => intro start; rfl
  case allEntries => exact match_requireCurrent _
  case valuesWithPrefix => intro start; exact getD_map_current? _ _
  case value => exact e.valueCurrent_eq
  case firstWithPrefix => intro start; exact getD_map_current? _ _
  -- the typed values: what the empty text says is the default of the type
  case flag =>
    intro key
    rw [flagCurrent, valueCurrent_eq, map_atCurrent]
    rfl
  case long =>
    intro key
    rw [longCurrent, valueCurrent_eq, map_atCurrent]
    rfl
  case double =>
    intro key
    rw [doubleCurrent, valueCurrent_eq, map_atCurrent]
    rfl
  case list =>
    intro key separator k
    rw [listCurrent, valueCurrent_eq, map_atCurrent]
    rfl
  case array =>
    intro key separator k n
    rw [arrayCurrent, valueCurrent_eq, map_atCurrent, ← Separated.firstOf_nil]
    rfl
  -- a typed value is set as its text
  case set => exact e.setCurrent_eq
  case setFlag => intro key b; exact e.setCurrent_eq key _
  case setLong => intro key n; exact e.setCurrent_eq key _
  case setDouble => intro key x; exact e.setCurrent_eq key _
  case setList => intro key separator values; exact e.setCurrent_eq key _
  case erase => intro key; exact match_requireCurrent _
  case eraseFirst => intro key; exact match_requireCurrent _

theorem askCurrent_eq (e : Editor) (q : Query) :
    e.askCurrent q = e.atCurrent q.blank fun name => e.askNamed name q := by
  have h := e.formsAgree
  cases q with
  | size => rfl
  | hasKey key => rw [askCurrent, h.hasKey, map_atCurrent]; rfl
  | hasPrefix start => rw [askCurrent, h.hasPrefix, map_atCurrent]; rfl
  | valuesWithPrefix start => rw [askCurrent, h.valuesWithPrefix, map_atCurrent]; rfl
  | value key => rw [askCurrent, h.value, map_atCurrent]; rfl
  | firstWithPrefix start => rw [askCurrent, h.firstWithPrefix, map_atCurrent]; rfl
  | flag key => rw [askCurrent, h.flag, map_atCurrent]; rfl
  | long key => rw [askCurrent, h.long, map_atCurrent]; rfl
  | double key => rw [askCurrent, h.double, map_atCurrent]; rfl
  | list key separator k => rw [askCurrent, h.list, map_atCurrent]; rfl
  | array key separator k n => rw [askCurrent, h.array, map_atCurrent]; rfl

theorem editCurrent_add (e : Editor) (key : Text) (payload : Payload) :
    e.editCurrent (.add key payload) =
      (e.setCurrent key payload.write).map (·.map fun _ => .nothing) id := by
  cases payload with
  | list separator values => rfl
  | one value => cases value <;> rfl

theorem editCurrent_eq (e : Editor) (change : Edit) :
    e.editCurrent change =
      e.atCurrent (.error .noCurrentSection) fun name => e.editNamed name change := by
  have h := e.formsAgree
  cases change with
  | add key payload =>
    rw [editCurrent_add, h.set, map_atCurrent]
    simp only [editNamed_add]
    rfl
  | erase key => rw [editCurrent, h.erase, map_atCurrent]; rfl
  | eraseFirst key => rw [editCurrent, h.eraseFirst, map_atCurrent]; rfl

/-! ## Requests by their address -/

theorem ask_of_resolve (ha : e.resolve a = some name) (q : Query) :
    e.ask a q = (q.answer ((e.fetch name).1.getD []), (e.fetch name).2) := by
  rw [← askNamed_eq]
  cases a with
  | named other => rw [← Option.some.inj ha]; rfl
  | current => exact (e.askCurrent_eq q).trans (atCurrent_of_some ha _ _)

theorem ask_of_nowhere (ha : e.resolve a = none) (q : Query) : e.ask a q = (q.absent, e) := by
  cases a with
  | named other => cases ha
  | current =>
    rw [Query.absent_eq_blank]
    exact (e.askCurrent_eq q).trans (atCurrent_of_none ha _ _)

theorem entries_of_resolve (ha : e.resolve a = some name) :
    e.entries a =
      if e.parsed then
        ((e.fetch name).1.elim (.error (.sectionNotFound name)) (.ok ∘ .entries),
          (e.fetch name).2)
      else (.error .nothingParsed, e) := by
  have hentries : e.entries a = (e.allEntries name).map (·.map .entries) id := by
    cases a with
    | named other => rw [← Option.some.inj ha]; rfl
    | current => rw [entries, e.formsAgree.allEntries, atCurrent_of_some ha]
  rw [hentries, allEntries_eq]
  split
  · cases (e.fetch name).1 <;> rfl
  · rfl

theorem entries_of_nowhere (ha : e.resolve a = none) :
    e.entries a = (.error .noCurrentSection, e) := by
  cases a with
  | named other => cases ha
  | current =>
    rw [entries, e.formsAgree.allEntries, atCurrent_of_none ha]
    rfl

theorem edit_of_resolve (ha : e.resolve a = some name) (change : Edit) :
    e.edit a change =
      match change.apply e.content name with
      | .error fault => (.error fault, e)
      | .ok (answer, c) =>
        (.ok answer, { e with content := c, parsed := e.parsed || change.isAdd }) := by
  rw [← editNamed_eq]
  cases a with
  | named other => rw [← Option.some.inj ha]; rfl
  | current => exact (e.editCurrent_eq change).trans (atCurrent_of_some ha _ _)

theorem edit_of_nowhere (ha : e.resolve a = none) (change : Edit) :
    e.edit a change = (.error .noCurrentSection, e) := by
  cases a with
  | named other => cases ha
  | current => exact (e.editCurrent_eq change).trans (atCurrent_of_none ha _ _)

theorem edit_of_refused {fault : Fault} (ha : e.resolve a = some name)
    (h : change.apply e.content name = .error fault) : e.edit a change = (.error fault, e) := by
  rw [edit_of_resolve ha, h]

theorem edit_of_applied {answer : Answer} {c : CachedDocument} (ha : e.resolve a = some name)
    (h : change.apply e.content name = .ok (answer, c)) :
    e.edit a change =
      (.ok answer, { e with content := c, parsed := e.parsed || change.isAdd }) := by
  rw [edit_of_resolve ha, h]

end Editor

end IniConfig
