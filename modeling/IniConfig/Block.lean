import IniConfig.Parsed

/-!
# Texts read block by block

The lines of a text fall into blocks: those before the first header, and those of each header up to
the next. What a block gives depends on its lines and on the sections before it, and on no other
block. Reading block by block is a second account of what a text says, beside reading line by line
with a section that is open.
-/

namespace IniConfig

/-- The lines of a header, with their numbers; without a name, the lines before the first header. -/
structure Block where
  name? : Option Text
  lines : List (Nat × Line)
deriving DecidableEq, Repr

namespace Block

/-- The lines up to the next header, and the blocks from there on; the first line has this
number. -/
def cutFrom : Nat → List Line → List (Nat × Line) × List Block
  | _, [] => ([], [])
  | n, line :: rest =>
    let (lines, blocks) := cutFrom (n + 1) rest
    match line with
    | .header name => ([], ⟨some name, lines⟩ :: blocks)
    | line => ((n, line) :: lines, blocks)

/-- The blocks of lines that are counted from one. -/
def cut (lines : List Line) : List Block := ⟨none, (cutFrom 1 lines).1⟩ :: (cutFrom 1 lines).2

/-- The entry that a line gives to its section. -/
def entryOf? (o : Options) : Line → Option Entry
  | .entry key value => some ⟨key, value⟩
  | .bare text => if o.keepBare then some (.ofBare text) else none
  | _ => none

def entries (o : Options) (b : Block) : Section :=
  b.lines.filterMap fun (_, line) => entryOf? o line

/-- The number of the first line of the block that is an entry. -/
def firstEntry? (b : Block) : Option Nat :=
  b.lines.findSome? fun (n, line) =>
    match line with
    | .entry _ _ => some n
    | _ => none

/-- The document after a block without a section, which must not have an entry. -/
def addOutside (b : Block) (d : Document) : Except Fault Document :=
  match b.firstEntry? with
  | some n => .error (.entryOutsideSection n)
  | none => .ok d

/-- The document after the block. A section without entries is left out; a section with entries
must have a new name. -/
def addTo (o : Options) (b : Block) (d : Document) : Except Fault Document :=
  match b.name? with
  | none => b.addOutside d
  | some name =>
    if o.isExcluded name then .ok d
    else if name = [] then b.addOutside d
    else if b.entries o = [] then .ok d
    else d.commit name (b.entries o)

/-- What the blocks give on top of a document. If another block follows and all sections that are
to be kept are there, the rest is not read. -/
def read (o : Options) (d : Document) : List Block → Parsed
  | [] => ⟨d, d.names, none⟩
  | b :: rest =>
    match b.addTo o d with
    | .error fault => ⟨d, d.names, some fault⟩
    | .ok d =>
      if rest ≠ [] ∧ Parsed.isComplete o d.names then ⟨d, d.names, none⟩ else read o d rest

end Block

def Parsed.ofBlocks (o : Options) (t : Text) : Parsed :=
  Block.read o [] (Block.cut ((o.prepared t).lines.map Line.classify))

end IniConfig
