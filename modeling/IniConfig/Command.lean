import IniConfig.Access
import IniConfig.Folder

/-!
# Commands

All that can be asked of an editor that works in a folder, and what each request does. A request
that is refused leaves everything as it was, except that a text with a fault has replaced the
content by the sections before the fault.
-/

namespace IniConfig

/-- The version of the library that answers. -/
def version : Text := ['0', '.', '1', '.', '0']

/-- A question about an editor that looks at no entry. -/
inductive Inspection where
  | isParsed
  | hasSection (name : Text)
  | sectionCount
  | sectionNames
  | readNames
  | current
  | render
deriving DecidableEq, Repr

def Inspection.answer (e : Editor) : Inspection → Answer
  | isParsed => .truth e.parsed
  | hasSection name => .truth (e.document.contains name)
  | sectionCount => .count e.document.length
  | sectionNames => .texts e.document.names
  | readNames => .texts e.readNames
  | current => e.current?.elim .nothing .text
  | render => .text e.render

/-- A request to an editor that works in a folder. -/
inductive Command where
  | parse (t : Text)
  | parseBytes (bs : Bytes)
  | parseFile (file : Text)
  | writeFile (file : Text)
  | clear
  | enter (name : Text)
  | select (name : Text)
  | inspect (i : Inspection)
  /-- A look at the content as it is stored, whether or not it counts. -/
  | look (l : Look)
  | ask (a : Address) (q : Query)
  | entries (a : Address)
  | edit (a : Address) (change : Edit)
deriving DecidableEq, Repr

/-- An editor and the folder that it works in. -/
structure Workspace where
  editor : Editor := {}
  folder : Folder := []

namespace Workspace

def new (o : Options) (f : Folder) : Workspace := { editor := .new o, folder := f }

def withEditor (w : Workspace) (step : Reply × Editor) : Reply × Workspace :=
  (step.1, { w with editor := step.2 })

/-- Reads the text of a file in place of the content; without the file, the content stays. -/
def parseFile (w : Workspace) (file : Text) : Reply × Workspace :=
  match w.folder.read file with
  | .error cause => (.error (.file file cause), w)
  | .ok bs => w.withEditor (w.editor.parseBytes bs)

/-- Writes the content to a file, and answers the bytes. -/
def writeFile (w : Workspace) (file : Text) : Reply × Workspace :=
  match w.folder.write file w.editor.renderBytes with
  | .error cause => (.error (.file file cause), w)
  | .ok folder => (.ok (.bytes w.editor.renderBytes), { w with folder := folder })

def run (w : Workspace) : Command → Reply × Workspace
  | .parse t => w.withEditor (w.editor.parse t)
  | .parseBytes bs => w.withEditor (w.editor.parseBytes bs)
  | .parseFile file => w.parseFile file
  | .writeFile file => w.writeFile file
  | .clear => w.withEditor (.ok .nothing, w.editor.clear)
  | .enter name => w.withEditor (w.editor.enter name)
  | .select name => w.withEditor (.ok .nothing, w.editor.select name)
  | .inspect i => (.ok (i.answer w.editor), w)
  | .look l => w.withEditor (w.editor.look l)
  | .ask a q => w.withEditor (.ok (w.editor.ask a q).1, (w.editor.ask a q).2)
  | .entries a => w.withEditor (w.editor.entries a)
  | .edit a change => w.withEditor (w.editor.edit a change)

/-- The replies to the commands one after the other, and the workspace after them. -/
def runAll (w : Workspace) : List Command → List Reply × Workspace
  | [] => ([], w)
  | c :: cs =>
    let (reply, w) := w.run c
    let (replies, w) := w.runAll cs
    (reply :: replies, w)

end Workspace

end IniConfig
