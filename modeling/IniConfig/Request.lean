import IniConfig.Operation
import IniConfig.Separated

/-!
# Requests about a section

What can be asked about a section and what can be changed in it. The section is given by its name,
or it is the current one. Each question has an answer in every section; where there is no section to
ask, it is answered as of a section without entries (`Query.absent`). A change adds an entry at the
end of a section, or removes entries of one key; a value is given typed and kept as text.
-/

namespace IniConfig

/-- The section that a request is about. -/
inductive Address where
  | named (name : Text)
  | current
deriving DecidableEq, Repr

/-- A question about the entries of a section. -/
inductive Query where
  | hasKey (key : Text)
  | hasPrefix (start : Text)
  | size
  | valuesWithPrefix (start : Text)
  | value (key : Text)
  | firstWithPrefix (start : Text)
  | flag (key : Text)
  | long (key : Text)
  | double (key : Text)
  | list (key separator : Text) (kind : Kind)
  | array (key separator : Text) (kind : Kind) (size : Nat)
deriving DecidableEq, Repr

namespace Query

/-- The value of a key as text; empty if the section lacks the key. -/
def valueOf (s : Section) (key : Text) : Text := (s.value? key).getD []

/-- The answer in a section. -/
def answer (s : Section) : Query → Answer
  | hasKey key => .truth (s.hasKey key)
  | hasPrefix start => .truth (s.hasPrefix start)
  | size => .count s.length
  | valuesWithPrefix start => .texts (s.valuesWithPrefix start)
  | value key => .text (valueOf s key)
  | firstWithPrefix start => .text ((s.valuesWithPrefix start).head?.getD [])
  | flag key => .truth (valueOf s key).saysTrue
  | long key => .value (Kind.long.read (valueOf s key))
  | double key => .value (Kind.double.read (valueOf s key))
  | list key separator kind => .values (Separated.read kind separator (valueOf s key))
  | array key separator kind n =>
    .values (Separated.firstOf kind n (Separated.read kind separator (valueOf s key)))

/-- The answer where there is no section to ask. -/
def absent (q : Query) : Answer := q.answer []

end Query

inductive Payload where
  | one (value : Scalar)
  | list (separator : Text) (values : List Scalar)
deriving DecidableEq, Repr

/-- The text that is kept for a value. -/
def Payload.write : Payload → Text
  | one value => value.write
  | list separator values => Separated.write separator values

inductive Edit where
  | add (key : Text) (payload : Payload)
  | erase (key : Text)
  | eraseFirst (key : Text)
deriving DecidableEq, Repr

def Edit.isAdd : Edit → Bool
  | add _ _ => true
  | _ => false

end IniConfig
