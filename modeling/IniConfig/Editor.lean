import IniConfig.Operation
import IniConfig.Parsed

/-!
# Editors

An editor holds a document that it reads from text, answers questions about, changes and renders.
It remembers whether it has content, which sections the last text gave, and a current section that
need not exist. Content counts from the moment a text was read without fault or an entry was added;
until then questions are answered as of a document without sections, though the sections before a
fault are there and can be entered and erased from.
-/

namespace IniConfig

/-- A document with what is remembered of how it came about. -/
structure Editor where
  options : Options := {}
  content : CachedDocument := {}
  /-- Whether the content counts. -/
  parsed : Bool := false
  pointer? : Option Text := none
  /-- The names of the sections that the last text gave, in order. -/
  readNames : List Text := []

namespace Editor

def new (o : Options) : Editor := { options := o }

def document (e : Editor) : Document := e.content.document

/-- The name of the current section; the empty name stands for no section. -/
def current? (e : Editor) : Option Text := e.pointer?.filter (· ≠ [])

/-- The editor without content; its options and the current section stay. -/
def clear (e : Editor) : Editor := { e with content := {}, parsed := false, readNames := [] }

/-- Reads a text in place of the content. -/
def parse (e : Editor) (t : Text) : Reply × Editor :=
  let p := Parsed.ofText e.options t
  let e := e.clear
  let e := { e with content := { e.content with document := p.document }, readNames := p.readNames }
  match p.fault? with
  | some fault => (.error fault, e)
  | none => (.ok .nothing, { e with parsed := true })

def parseBytes (e : Editor) (bs : Bytes) : Reply × Editor :=
  e.parse ((e.options.charset?.getD .utf8).decode bs)

/-- Makes the section of this name the current one, whether or not it exists. -/
def select (e : Editor) (name : Text) : Editor := { e with pointer? := some name }

/-- Makes a section that exists the current one. -/
def enter (e : Editor) (name : Text) : Reply × Editor :=
  match e.content.cache name with
  | .error fault => (.error fault, e)
  | .ok c => (.ok .nothing, { e with content := c }.select name)

/-- Answers from the content as it is stored, whether or not it counts. -/
def look (e : Editor) (l : Look) : Reply × Editor :=
  ((e.content.look l).1, { e with content := (e.content.look l).2 })

/-- The section of this name, if the content counts. -/
def fetch (e : Editor) (name : Text) : Option Section × Editor :=
  if e.parsed then ((e.content.fetch name).1, { e with content := (e.content.fetch name).2 })
  else (none, e)

/-- The text that is written for the content. -/
def render (e : Editor) : Text := if e.parsed then e.document.render else []

/-- The bytes that are written for the content. -/
def renderBytes (e : Editor) : Bytes := (e.options.charset?.getD .utf8).encode e.render

end Editor

end IniConfig
