import IniConfig.Editor
import IniConfig.Request

/-!
# Reading and changing one section

Each request about a section, but for its size, has two forms: one is given the name of the section,
the other is about the current section. Both are written out, as the second finds its section by
different means: a text is looked up only if there is a current section, a typed value is what the
text says that is read in the same form, and a change is refused without a current section, as is a
request for all entries. That the two forms agree is a theorem (`Editor.formsAgree`).
-/

namespace IniConfig

namespace Editor

/-! ## Reading -/

/-- What is read off the section of this name, if the content counts and has one. -/
def read {α : Type} (e : Editor) (name : Text) (f : Section → α) : Option α × Editor :=
  (e.fetch name).map (Option.map f) id

/-- The name of the current section, without which a request cannot go on. -/
def requireCurrent (e : Editor) : Except Fault Text :=
  match e.current? with
  | none => .error .noCurrentSection
  | some name => .ok name

def hasKey (e : Editor) (name key : Text) : Bool × Editor :=
  (e.read name (·.hasKey key)).map (·.getD false) id

def hasKeyCurrent (e : Editor) (key : Text) : Bool × Editor :=
  e.current?.elim (false, e) fun name => e.hasKey name key

def hasPrefix (e : Editor) (name start : Text) : Bool × Editor :=
  (e.read name (·.hasPrefix start)).map (·.getD false) id

def hasPrefixCurrent (e : Editor) (start : Text) : Bool × Editor :=
  e.current?.elim (false, e) fun name => e.hasPrefix name start

/-- How many entries there are, the repeated keys counted. -/
def size (e : Editor) (name : Text) : Nat × Editor :=
  (e.read name List.length).map (·.getD 0) id

/-- All entries. That the content does not count is told before that the section is missing. -/
def allEntries (e : Editor) (name : Text) : Except Fault Section × Editor :=
  if e.parsed then
    (e.read name id).map (fun s? => s?.elim (.error (.sectionNotFound name)) .ok) id
  else (.error .nothingParsed, e)

def allEntriesCurrent (e : Editor) : Except Fault Section × Editor :=
  match e.requireCurrent with
  | .error fault => (.error fault, e)
  | .ok name => e.allEntries name

def valuesWithPrefix (e : Editor) (name start : Text) : List Text × Editor :=
  (e.read name (·.valuesWithPrefix start)).map (·.getD []) id

def valuesWithPrefixCurrent (e : Editor) (start : Text) : List Text × Editor :=
  (e.current?.map fun name => e.valuesWithPrefix name start).getD ([], e)

/-- The value of the first entry with this key. -/
def value (e : Editor) (name key : Text) : Text × Editor :=
  (e.read name (·.value? key)).map (·.join.getD []) id

def valueCurrent (e : Editor) (key : Text) : Text × Editor :=
  (e.current?.map fun name => e.value name key).getD ([], e)

/-- The value of the first entry whose key begins with this text. -/
def firstWithPrefix (e : Editor) (name start : Text) : Text × Editor :=
  (e.read name fun s => (s.valuesWithPrefix start).head?).map (·.join.getD []) id

def firstWithPrefixCurrent (e : Editor) (start : Text) : Text × Editor :=
  (e.current?.map fun name => e.firstWithPrefix name start).getD ([], e)

/-! ## Reading typed values

The text of the value is read first, in the one form or the other, and then what it says. -/

def flag (e : Editor) (name key : Text) : Bool × Editor :=
  (e.value name key).map Text.saysTrue id

def flagCurrent (e : Editor) (key : Text) : Bool × Editor :=
  (e.valueCurrent key).map Text.saysTrue id

def long (e : Editor) (name key : Text) : Scalar × Editor :=
  (e.value name key).map Kind.long.read id

def longCurrent (e : Editor) (key : Text) : Scalar × Editor :=
  (e.valueCurrent key).map Kind.long.read id

def double (e : Editor) (name key : Text) : Scalar × Editor :=
  (e.value name key).map Kind.double.read id

def doubleCurrent (e : Editor) (key : Text) : Scalar × Editor :=
  (e.valueCurrent key).map Kind.double.read id

def list (e : Editor) (name key separator : Text) (k : Kind) : List Scalar × Editor :=
  (e.value name key).map (Separated.read k separator) id

def listCurrent (e : Editor) (key separator : Text) (k : Kind) : List Scalar × Editor :=
  (e.valueCurrent key).map (Separated.read k separator) id

def array (e : Editor) (name key separator : Text) (k : Kind) (n : Nat) : List Scalar × Editor :=
  (e.value name key).map (fun t => Separated.firstOf k n (Separated.read k separator t)) id

def arrayCurrent (e : Editor) (key separator : Text) (k : Kind) (n : Nat) : List Scalar × Editor :=
  (e.valueCurrent key).map (fun t => Separated.firstOf k n (Separated.read k separator t)) id

/-! ## Changing -/

/-- Adds an entry at the end of the section, which is begun if it is missing; the content counts. -/
def set (e : Editor) (name key value : Text) : Editor :=
  { e with content := e.content.append name ⟨key, value⟩, parsed := true }

def setCurrent (e : Editor) (key value : Text) : Except Fault Unit × Editor :=
  match e.requireCurrent with
  | .error fault => (.error fault, e)
  | .ok name => (.ok (), e.set name key value)

def setFlag (e : Editor) (name key : Text) (b : Bool) : Editor := e.set name key (Text.ofBool b)

def setFlagCurrent (e : Editor) (key : Text) (b : Bool) : Except Fault Unit × Editor :=
  e.setCurrent key (Text.ofBool b)

def setLong (e : Editor) (name key : Text) (n : Int) : Editor :=
  e.set name key (IntegerType.write n)

def setLongCurrent (e : Editor) (key : Text) (n : Int) : Except Fault Unit × Editor :=
  e.setCurrent key (IntegerType.write n)

def setDouble (e : Editor) (name key : Text) (x : Floating) : Editor :=
  e.set name key (x.write .double)

def setDoubleCurrent (e : Editor) (key : Text) (x : Floating) : Except Fault Unit × Editor :=
  e.setCurrent key (x.write .double)

def setList (e : Editor) (name key separator : Text) (values : List Scalar) : Editor :=
  e.set name key (Separated.write separator values)

def setListCurrent (e : Editor) (key separator : Text) (values : List Scalar) :
    Except Fault Unit × Editor :=
  e.setCurrent key (Separated.write separator values)

/-- Removes the entries of a key, and tells how many went. -/
def erase (e : Editor) (name key : Text) : Except Fault Nat × Editor :=
  match e.content.erase name key with
  | .error fault => (.error fault, e)
  | .ok (n, c) => (.ok n, { e with content := c })

def eraseCurrent (e : Editor) (key : Text) : Except Fault Nat × Editor :=
  match e.requireCurrent with
  | .error fault => (.error fault, e)
  | .ok name => e.erase name key

/-- Removes the first entry of a key. -/
def eraseFirst (e : Editor) (name key : Text) : Except Fault Unit × Editor :=
  match e.content.eraseFirst name key with
  | .error fault => (.error fault, e)
  | .ok (_, c) => (.ok (), { e with content := c })

def eraseFirstCurrent (e : Editor) (key : Text) : Except Fault Unit × Editor :=
  match e.requireCurrent with
  | .error fault => (.error fault, e)
  | .ok name => e.eraseFirst name key

/-! ## Requests in the form that is meant -/

/-- The name of the section that is meant. -/
def resolve (e : Editor) : Address → Option Text
  | .named name => some name
  | .current => e.current?

def askNamed (e : Editor) (name : Text) : Query → Answer × Editor
  | .hasKey key => (e.hasKey name key).map .truth id
  | .hasPrefix start => (e.hasPrefix name start).map .truth id
  | .size => (e.size name).map .count id
  | .valuesWithPrefix start => (e.valuesWithPrefix name start).map .texts id
  | .value key => (e.value name key).map .text id
  | .firstWithPrefix start => (e.firstWithPrefix name start).map .text id
  | .flag key => (e.flag name key).map .truth id
  | .long key => (e.long name key).map .value id
  | .double key => (e.double name key).map .value id
  | .list key separator k => (e.list name key separator k).map .values id
  | .array key separator k n => (e.array name key separator k n).map .values id

/-- The size has no form for the current section; it is that of the section of this name. -/
def askCurrent (e : Editor) : Query → Answer × Editor
  | .hasKey key => (e.hasKeyCurrent key).map .truth id
  | .hasPrefix start => (e.hasPrefixCurrent start).map .truth id
  | .size => e.current?.elim (.count 0, e) fun name => (e.size name).map .count id
  | .valuesWithPrefix start => (e.valuesWithPrefixCurrent start).map .texts id
  | .value key => (e.valueCurrent key).map .text id
  | .firstWithPrefix start => (e.firstWithPrefixCurrent start).map .text id
  | .flag key => (e.flagCurrent key).map .truth id
  | .long key => (e.longCurrent key).map .value id
  | .double key => (e.doubleCurrent key).map .value id
  | .list key separator k => (e.listCurrent key separator k).map .values id
  | .array key separator k n => (e.arrayCurrent key separator k n).map .values id

/-- Answers a question. -/
def ask (e : Editor) (a : Address) (q : Query) : Answer × Editor :=
  match a with
  | .named name => e.askNamed name q
  | .current => e.askCurrent q

def entries (e : Editor) (a : Address) : Reply × Editor :=
  match a with
  | .named name => (e.allEntries name).map (·.map .entries) id
  | .current => e.allEntriesCurrent.map (·.map .entries) id

/-- A value of a type without a form of its own is set as its text. -/
def editNamed (e : Editor) (name : Text) : Edit → Reply × Editor
  | .add key (.one (.flag b)) => (.ok .nothing, e.setFlag name key b)
  | .add key (.one (.integer n)) => (.ok .nothing, e.setLong name key n)
  | .add key (.one (.double x)) => (.ok .nothing, e.setDouble name key x)
  | .add key (.one value) => (.ok .nothing, e.set name key value.write)
  | .add key (.list separator values) => (.ok .nothing, e.setList name key separator values)
  | .erase key => (e.erase name key).map (·.map .count) id
  | .eraseFirst key => (e.eraseFirst name key).map (·.map fun _ => .nothing) id

def editCurrent (e : Editor) : Edit → Reply × Editor
  | .add key (.one (.flag b)) => (e.setFlagCurrent key b).map (·.map fun _ => .nothing) id
  | .add key (.one (.integer n)) => (e.setLongCurrent key n).map (·.map fun _ => .nothing) id
  | .add key (.one (.double x)) => (e.setDoubleCurrent key x).map (·.map fun _ => .nothing) id
  | .add key (.one value) => (e.setCurrent key value.write).map (·.map fun _ => .nothing) id
  | .add key (.list separator values) =>
    (e.setListCurrent key separator values).map (·.map fun _ => .nothing) id
  | .erase key => (e.eraseCurrent key).map (·.map .count) id
  | .eraseFirst key => (e.eraseFirstCurrent key).map (·.map fun _ => .nothing) id

/-- Makes a change; with an entry added, the content counts. -/
def edit (e : Editor) (a : Address) (change : Edit) : Reply × Editor :=
  match a with
  | .named name => e.editNamed name change
  | .current => e.editCurrent change

end Editor

end IniConfig
