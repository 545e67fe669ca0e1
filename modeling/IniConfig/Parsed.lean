import IniConfig.Document
import IniConfig.Line
import IniConfig.Options

/-!
# Texts read as documents

The lines of a text are read one after the other, with one section open at most. A header closes
the open section and opens its own; an entry goes into the open section. A closed section joins the
document if it has entries, and its name must be new there. Where a line cannot be read, the
sections closed before it stay.
-/

namespace IniConfig

/-- What was read of a text: the sections, their names in the order in which they were closed, and
why not all of the text was read, if so. -/
structure Parsed where
  document : Document
  readNames : List Text
  fault? : Option Fault
deriving DecidableEq, Repr

namespace Parsed

/-- Where the reading of a text stands. -/
structure Progress where
  done : Document := []
  /-- The names of the closed sections, in the order in which they were closed. -/
  read : List Text := []
  open? : Option (Text × Section) := none
  /-- Whether entries are dropped, up to the next header. -/
  dropping : Bool := false
deriving DecidableEq, Repr

namespace Progress

/-- With the open section closed. A section without entries leaves nothing behind. -/
def close (p : Progress) : Except Fault Progress :=
  match p.open? with
  | none | some (_, []) => .ok { p with open? := none }
  | some (name, s) =>
    (p.done.commit name s).map fun d =>
      { p with done := d, read := p.read ++ [name], open? := none }

/-- Behind a header. The empty name opens no section. -/
def opened (o : Options) (p : Progress) (name : Text) : Progress :=
  { p with open? := if name = [] then none else some (name, []), dropping := o.isExcluded name }

/-- With one more entry in the open section, if there is one. -/
def push (p : Progress) (e : Entry) : Progress :=
  { p with open? := p.open?.map fun (name, s) => (name, s ++ [e]) }

def stop (p : Progress) (fault? : Option Fault) : Parsed := ⟨p.done, p.read, fault?⟩

end Progress

/-- Whether these are all sections that are to be kept, in the order in which they were named. -/
def isComplete (o : Options) (names : List Text) : Bool := o.included ≠ [] && names = o.included

/-- Reads the lines that are left, the first of which has this number. Behind a header, nothing
more is read if all sections that are to be kept are there. -/
def ofLinesFrom (o : Options) : Nat → Progress → List Line → Parsed
  | _, p, [] =>
    match p.close with
    | .error fault => p.stop (some fault)
    | .ok p => p.stop none
  | n, p, line :: rest =>
    match line with
    | .skipped => ofLinesFrom o (n + 1) p rest
    | .entry key value =>
      if p.dropping then ofLinesFrom o (n + 1) p rest
      else if p.open?.isNone then p.stop (some (.entryOutsideSection n))
      else ofLinesFrom o (n + 1) (p.push ⟨key, value⟩) rest
    | .bare text =>
      if o.keepBare && !p.dropping then ofLinesFrom o (n + 1) (p.push (.ofBare text)) rest
      else ofLinesFrom o (n + 1) p rest
    | .header name =>
      match p.close with
      | .error fault => p.stop (some fault)
      | .ok p =>
        if isComplete o p.read then p.stop none else ofLinesFrom o (n + 1) (p.opened o name) rest

def ofLines (o : Options) (lines : List Line) : Parsed := ofLinesFrom o 1 {} lines

def ofText (o : Options) (t : Text) : Parsed := ofLines o ((o.prepared t).lines.map Line.classify)

end Parsed

end IniConfig
