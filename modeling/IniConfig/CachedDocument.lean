import IniConfig.Document

/-!
# Documents with a snapshot

A snapshot remembers one section under its name, as the section was when the snapshot was taken. A
document has a snapshot of the section that was asked for last: a section is read through it, and a
change to the section that it holds takes it again. So the two always agree (`Coherent`), and
reading through the snapshot answers what the document holds (`fetch_fst`).
-/

namespace IniConfig

/-- The entries of one section and its name, which is missing as long as none is remembered. -/
structure Snapshot where
  name? : Option Text := none
  content : Section := []
deriving DecidableEq, Repr

namespace Snapshot

/-- Nothing is remembered. -/
def vacant : Snapshot := {}

/-- The section of this name is remembered with these entries. -/
def taken (name : Text) (content : Section) : Snapshot := ⟨some name, content⟩

/-- Whether the section of this name is the remembered one. -/
def holds (s : Snapshot) (name : Text) : Bool := s.name? = some name

theorem holds_iff {s : Snapshot} {name : Text} : s.holds name ↔ s.name? = some name := by
  simp [holds]

end Snapshot

/-- A document and a snapshot of one of its sections. -/
structure CachedDocument where
  document : Document := []
  snapshot : Snapshot := .vacant

namespace CachedDocument

def empty : CachedDocument := {}

/-- The section of this name. A snapshot of it is answered as it is; otherwise one is taken. -/
def fetch (c : CachedDocument) (name : Text) : Option Section × CachedDocument :=
  match c.document.find? name with
  | none => (none, c)
  | some stored =>
    if c.snapshot.holds name then (some c.snapshot.content, c)
    else (some stored, { c with snapshot := .taken name stored })

/-- Takes the snapshot of the section of this name, whether or not it is held already. -/
def cache (c : CachedDocument) (name : Text) : Except Fault CachedDocument :=
  match c.document.find? name with
  | none => .error (.sectionNotFound name)
  | some stored => .ok { c with snapshot := .taken name stored }

/-- Takes the snapshot again if it holds the section of this name. -/
def refresh (c : CachedDocument) (name : Text) : CachedDocument :=
  match c.document.find? name with
  | none => c
  | some stored =>
    if c.snapshot.holds name then { c with snapshot := .taken name stored } else c

def commit (c : CachedDocument) (name : Text) (s : Section) : Except Fault CachedDocument :=
  (c.document.commit name s).map fun d => { c with document := d }

/-- Adds an entry to the section of this name, which is begun if it is not there. -/
def append (c : CachedDocument) (name : Text) (e : Entry) : CachedDocument :=
  refresh { c with document := c.document.append name e } name

def erase (c : CachedDocument) (name key : Text) : Except Fault (Nat × CachedDocument) :=
  (c.document.erase name key).map fun (n, d) =>
    (n, if n = 0 then c else refresh { c with document := d } name)

def eraseFirst (c : CachedDocument) (name key : Text) : Except Fault (Entry × CachedDocument) :=
  (c.document.eraseFirst name key).map fun (e, d) =>
    (e, refresh { c with document := d } name)

/-! ## Document and snapshot agree -/

/-- A remembered section is in the document with the same entries, and without one there are no
entries. -/
structure Coherent (c : CachedDocument) : Prop where
  held : ∀ {name}, c.snapshot.name? = some name →
    c.document.find? name = some c.snapshot.content
  blank : c.snapshot.name? = none → c.snapshot.content = []

theorem coherent_vacant (d : Document) : Coherent { document := d } := ⟨nofun, fun _ => rfl⟩

theorem coherent_taken {c : CachedDocument} {name : Text} {s : Section}
    (hs : c.document.find? name = some s) :
    Coherent { c with snapshot := .taken name s } := by
  refine ⟨?_, nofun⟩
  intro held hheld
  obtain rfl : name = held := Option.some.inj hheld
  exact hs

@[simp] theorem document_refresh (c : CachedDocument) (name : Text) :
    (c.refresh name).document = c.document := by
  unfold refresh; repeat' split
  all_goals rfl

@[simp] theorem document_fetch (c : CachedDocument) (name : Text) :
    (c.fetch name).2.document = c.document := by
  unfold fetch; repeat' split
  all_goals rfl

theorem fetch_fst {c : CachedDocument} (h : c.Coherent) (name : Text) :
    (c.fetch name).1 = c.document.find? name := by
  unfold fetch
  split
  next hn => simp [hn]
  next s hs =>
    split
    next hh => exact (h.held (Snapshot.holds_iff.1 hh)).symm
    next => exact hs.symm

end CachedDocument

end IniConfig
