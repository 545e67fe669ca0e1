import IniConfig.Section
import IniConfig.Fault

/-!
# Documents

A document is the list of its sections under their names, in the order in which the names came.
No operation moves or removes a section, and none gives a name a second time: `commit` refuses a
name that is there, and `append` adds to its section. So the names of a document that the
operations built are distinct.
-/

namespace IniConfig

/-- The sections of a document with their names, in order. -/
abbrev Document := List (Text × Section)

namespace Document

def names (d : Document) : List Text := d.map (·.1)

def find? (d : Document) (name : Text) : Option Section := d.lookup name

def contains (d : Document) (name : Text) : Bool := (d.find? name).isSome

/-- The document with the sections of this name changed. -/
def modify (d : Document) (name : Text) (change : Section → Section) : Document :=
  d.map fun (n, s) => if n = name then (n, change s) else (n, s)

/-- The document with a new section at its end; the name must not be taken. -/
def commit (d : Document) (name : Text) (s : Section) : Except Fault Document :=
  if d.contains name then .error (.duplicateSection name) else .ok (d ++ [(name, s)])

/-- The document with an entry at the end of the section of this name, which is begun at the end
of the document if it is not there. -/
def append (d : Document) (name : Text) (e : Entry) : Document :=
  if d.contains name then d.modify name (· ++ [e]) else d ++ [(name, [e])]

/-- The number of entries of this key in the section, and the document without them. -/
def erase (d : Document) (name key : Text) : Except Fault (Nat × Document) :=
  match d.find? name with
  | none => .error (.sectionNotFound name)
  | some s => .ok (s.countKey key, d.modify name fun _ => s.eraseKey key)

/-- The first entry of this key in the section, and the document without it. -/
def eraseFirst (d : Document) (name key : Text) : Except Fault (Entry × Document) :=
  match d.find? name with
  | none => .error (.sectionNotFound name)
  | some s =>
    match s.eraseFirst? key with
    | none => .error (.entryNotFound name key)
    | some (e, rest) => .ok (e, d.modify name fun _ => rest)

/-- The text that is written for the document: its sections one after the other. -/
def render (d : Document) : Text := d.flatMap fun (name, s) => s.render name

/-! ## What the operations do to the names and to each section -/

@[simp] theorem names_nil : names [] = [] := rfl

@[simp] theorem names_cons (p : Text × Section) (d : Document) : names (p :: d) = p.1 :: names d :=
  rfl

@[simp] theorem names_append (d d' : Document) : names (d ++ d') = names d ++ names d' :=
  List.map_append

theorem nodup_names_concat {d : Document} {name : Text} {s : Section} (hd : d.names.Nodup)
    (hn : name ∉ d.names) : (d ++ [(name, s)]).names.Nodup := by
  rw [names_append, List.nodup_append]
  refine ⟨hd, by simp, fun a ha b hb e => hn ?_⟩
  obtain rfl : b = name := by simpa using hb
  exact e ▸ ha

@[simp] theorem find?_nil (name : Text) : find? [] name = none := rfl

theorem find?_cons (p : Text × Section) (d : Document) (name : Text) :
    find? (p :: d) name = if name = p.1 then some p.2 else find? d name := by
  obtain ⟨n, s⟩ := p
  unfold find?
  by_cases h : name = n
  · simp [h]
  · simp [List.lookup_cons, h, beq_false_of_ne h]

theorem find?_append (d d' : Document) (name : Text) :
    find? (d ++ d') name = (d.find? name).or (find? d' name) := List.lookup_append

theorem contains_iff_mem_names {d : Document} {name : Text} :
    d.contains name ↔ name ∈ d.names := by
  unfold contains
  induction d with
  | nil => simp
  | cons p d ih => by_cases h : name = p.1 <;> simp_all [find?_cons]

theorem find?_eq_none_iff {d : Document} {name : Text} :
    d.find? name = none ↔ name ∉ d.names := by
  rw [← contains_iff_mem_names, contains]; simp

@[simp] theorem names_modify (d : Document) (name : Text) (change : Section → Section) :
    (d.modify name change).names = d.names := by
  simp only [names, modify, List.map_map]
  refine List.map_congr_left fun p _ => ?_
  by_cases h : p.1 = name <;> simp [h]

theorem modify_cons (p : Text × Section) (d : Document) (name : Text)
    (change : Section → Section) :
    modify (p :: d) name change =
      (p.1, if p.1 = name then change p.2 else p.2) :: modify d name change := by
  by_cases h : p.1 = name <;> simp [modify, h]

theorem modify_modify (d : Document) (name : Text) (f g : Section → Section) :
    (d.modify name f).modify name g = d.modify name (g ∘ f) := by
  simp only [modify, List.map_map]
  refine List.map_congr_left fun p _ => ?_
  by_cases h : p.1 = name <;> simp [h]

theorem find?_modify (d : Document) (name other : Text) (change : Section → Section) :
    (d.modify name change).find? other =
      if other = name then (d.find? other).map change else d.find? other := by
  induction d with
  | nil => simp [modify]
  | cons p d ih =>
    rw [modify_cons, find?_cons, find?_cons, ih]
    by_cases h : other = p.1
    · subst h; by_cases hn : p.1 = name <;> simp [hn]
    · simp [h]

@[simp] theorem find?_modify_self (d : Document) (name : Text) (change : Section → Section) :
    (d.modify name change).find? name = (d.find? name).map change := by simp [find?_modify]

theorem find?_append_entry (d : Document) (name other : Text) (e : Entry) :
    (d.append name e).find? other =
      if other = name then some ((d.find? name).getD [] ++ [e]) else d.find? other := by
  unfold append contains
  cases hs : d.find? name with
  | some s => by_cases ho : other = name <;> simp [find?_modify, ho, hs]
  | none => by_cases ho : other = name <;> simp [find?_append, find?_cons, ho, hs]

theorem commit_eq_ok_iff {d d' : Document} {name : Text} {s : Section} :
    d.commit name s = .ok d' ↔ name ∉ d.names ∧ d' = d ++ [(name, s)] := by
  unfold commit
  rw [← contains_iff_mem_names]
  by_cases h : d.contains name = true <;> simp [h, eq_comm]

theorem modify_eq_self_of_not_mem {d : Document} {name : Text} (h : name ∉ d.names)
    (change : Section → Section) : d.modify name change = d := by
  induction d with
  | nil => rfl
  | cons p d ih =>
    rw [names_cons, List.mem_cons, not_or] at h
    rw [modify_cons, if_neg (Ne.symm h.1), ih h.2]

/-- Changes that agree on the section agree on the document. -/
theorem modify_congr {d : Document} {name : Text} {s : Section} {f g : Section → Section}
    (hd : d.names.Nodup) (hs : d.find? name = some s) (hfg : f s = g s) :
    d.modify name f = d.modify name g := by
  induction d with
  | nil => rfl
  | cons p d ih =>
    rw [names_cons, List.nodup_cons] at hd
    rw [find?_cons] at hs
    rw [modify_cons, modify_cons]
    by_cases h : name = p.1
    · subst h
      obtain rfl : p.2 = s := by simpa using hs
      rw [if_pos rfl, if_pos rfl, hfg, modify_eq_self_of_not_mem hd.1,
        modify_eq_self_of_not_mem hd.1]
    · rw [if_neg (Ne.symm h), if_neg (Ne.symm h), ih hd.2 (by simpa [h] using hs)]

/-- A change that leaves the section as it is leaves the document as it is. -/
theorem modify_eq_self {d : Document} {name : Text} {s : Section} {change : Section → Section}
    (hd : d.names.Nodup) (hs : d.find? name = some s) (hc : change s = s) :
    d.modify name change = d :=
  calc d.modify name change = d.modify name id := modify_congr hd hs hc
    _ = d := by simp [modify]

theorem nodup_names_append_entry {d : Document} (hd : d.names.Nodup) (name : Text) (e : Entry) :
    (d.append name e).names.Nodup := by
  unfold append
  split
  · rwa [names_modify]
  next h => exact nodup_names_concat hd fun hm => h (contains_iff_mem_names.2 hm)

theorem erase_eq_ok_iff {d d' : Document} {name key : Text} {n : Nat} :
    d.erase name key = .ok (n, d') ↔
      ∃ s, d.find? name = some s ∧ n = s.countKey key ∧
        d' = d.modify name fun _ => s.eraseKey key := by
  unfold erase
  cases d.find? name <;> simp [eq_comm]

theorem eraseFirst_eq_ok_iff {d d' : Document} {name key : Text} {e : Entry} :
    d.eraseFirst name key = .ok (e, d') ↔
      ∃ s rest, d.find? name = some s ∧ s.eraseFirst? key = some (e, rest) ∧
        d' = d.modify name fun _ => rest := by
  unfold eraseFirst
  cases d.find? name with
  | none => simp
  | some s =>
    cases hs : s.eraseFirst? key with
    | none => simp [hs]
    | some r =>
      obtain ⟨first, rest⟩ := r
      simp [hs, eq_comm, and_assoc]

end Document

end IniConfig
