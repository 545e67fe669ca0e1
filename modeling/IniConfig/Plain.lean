import IniConfig.Command

/-!
# Documents and editors without a snapshot

The same requests as to a document with a snapshot and to an editor in a folder, answered from the
document alone: a section is looked up each time it is asked for. These are the answers that a
snapshot must not change.
-/

namespace IniConfig

namespace Document

/-- Answers from the document; there is no snapshot to take. -/
def look (d : Document) : Look → Reply
  | .fetch name => .ok ((d.find? name).elim .nothing .entries)
  | .cache name => if d.contains name then .ok .nothing else .error (.sectionNotFound name)
  | .observe o => .ok (o.answer d)

def perform (d : Document) : Operation → Reply × Document
  | .clear => (.ok .nothing, [])
  | .commit name content =>
    match d.commit name content with
    | .error fault => (.error fault, d)
    | .ok d => (.ok .nothing, d)
  | .append name e => (.ok .nothing, d.append name e)
  | .erase name key =>
    match d.erase name key with
    | .error fault => (.error fault, d)
    | .ok (n, d) => (.ok (.count n), d)
  | .eraseFirst name key =>
    match d.eraseFirst name key with
    | .error fault => (.error fault, d)
    | .ok (e, d) => (.ok (.entry e), d)
  | .look l => (d.look l, d)

/-- The replies to the operations one after the other, and the document after them. -/
def performAll (d : Document) : List Operation → List Reply × Document
  | [] => ([], d)
  | op :: ops =>
    let (reply, d) := d.perform op
    let (replies, d) := d.performAll ops
    (reply :: replies, d)

end Document

/-- An editor without a snapshot, and the folder that it works in. -/
structure Plain where
  options : Options := {}
  document : Document := []
  parsed : Bool := false
  pointer? : Option Text := none
  readNames : List Text := []
  folder : Folder := []

namespace Plain

def new (o : Options) (f : Folder) : Plain := { options := o, folder := f }

/-- The name of the current section; the empty name stands for no section. -/
def current? (p : Plain) : Option Text := p.pointer?.filter (· ≠ [])

/-- What is left of a workspace without the snapshot. -/
def ofWorkspace (w : Workspace) : Plain where
  options := w.editor.options
  document := w.editor.document
  parsed := w.editor.parsed
  pointer? := w.editor.pointer?
  readNames := w.editor.readNames
  folder := w.folder

section

variable (w : Workspace)

@[simp] theorem options_ofWorkspace : (ofWorkspace w).options = w.editor.options := rfl

@[simp] theorem document_ofWorkspace : (ofWorkspace w).document = w.editor.content.document := rfl

@[simp] theorem folder_ofWorkspace : (ofWorkspace w).folder = w.folder := rfl

end

def resolve (p : Plain) : Address → Option Text
  | .named name => some name
  | .current => p.current?

@[simp] theorem resolve_ofWorkspace (w : Workspace) (a : Address) :
    (ofWorkspace w).resolve a = w.editor.resolve a := by cases a <;> rfl

def find? (p : Plain) (name : Text) : Option Section :=
  if p.parsed then p.document.find? name else none

def parse (p : Plain) (t : Text) : Reply × Plain :=
  let read := Parsed.ofText p.options t
  (match read.fault? with
    | some fault => .error fault
    | none => .ok .nothing,
   { p with document := read.document, readNames := read.readNames,
            parsed := read.fault?.isNone })

def charset (p : Plain) : Charset := p.options.charset?.getD .utf8

def render (p : Plain) : Text := if p.parsed then p.document.render else []

def inspect (p : Plain) : Inspection → Answer
  | .isParsed => .truth p.parsed
  | .hasSection name => .truth (p.document.contains name)
  | .sectionCount => .count p.document.length
  | .sectionNames => .texts p.document.names
  | .readNames => .texts p.readNames
  | .current => p.current?.elim .nothing .text
  | .render => .text p.render

def edit (p : Plain) (name : Text) : Edit → Reply × Plain
  | .add key payload =>
    (.ok .nothing,
      { p with document := p.document.append name ⟨key, payload.write⟩, parsed := true })
  | .erase key =>
    match p.document.erase name key with
    | .error fault => (.error fault, p)
    | .ok (n, d) => (.ok (.count n), { p with document := d })
  | .eraseFirst key =>
    match p.document.eraseFirst name key with
    | .error fault => (.error fault, p)
    | .ok (_, d) => (.ok .nothing, { p with document := d })

def run (p : Plain) : Command → Reply × Plain
  | .parse t => p.parse t
  | .parseBytes bs => p.parse (p.charset.decode bs)
  | .parseFile file =>
    match p.folder.read file with
    | .error cause => (.error (.file file cause), p)
    | .ok bs => p.parse (p.charset.decode bs)
  | .writeFile file =>
    match p.folder.write file (p.charset.encode p.render) with
    | .error cause => (.error (.file file cause), p)
    | .ok folder => (.ok (.bytes (p.charset.encode p.render)), { p with folder := folder })
  | .clear => (.ok .nothing, { p with document := [], parsed := false, readNames := [] })
  | .enter name =>
    if p.document.contains name then (.ok .nothing, { p with pointer? := some name })
    else (.error (.sectionNotFound name), p)
  | .select name => (.ok .nothing, { p with pointer? := some name })
  | .inspect i => (.ok (p.inspect i), p)
  | .look l => (p.document.look l, p)
  | .ask a q =>
    (.ok (match p.resolve a with
      | none => q.absent
      | some name => q.answer ((p.find? name).getD [])), p)
  | .entries a =>
    (match p.resolve a with
      | none => .error .noCurrentSection
      | some name =>
        if p.parsed then
          (p.document.find? name).elim (.error (.sectionNotFound name)) (.ok ∘ .entries)
        else .error .nothingParsed, p)
  | .edit a change =>
    match p.resolve a with
    | none => (.error .noCurrentSection, p)
    | some name => p.edit name change

def runAll (p : Plain) : List Command → List Reply × Plain
  | [] => ([], p)
  | c :: cs =>
    let (reply, p) := p.run c
    let (replies, p) := p.runAll cs
    (reply :: replies, p)

end Plain

end IniConfig
