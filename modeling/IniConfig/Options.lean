import IniConfig.Encoding.Charset
import IniConfig.Text.Printable

/-!
# Options

How a configuration is read: which lines and sections are kept, what is done to the text before it
is read, and the charset of files.
-/

namespace IniConfig

/-- How a configuration is read. -/
structure Options where
  /-- Whether lines without structure are kept. -/
  keepBare : Bool := false
  /-- The names of the sections that are kept; with no name here, all are. -/
  included : List Text := []
  /-- The names of the sections that are dropped, also of those that are to be kept. -/
  excluded : List Text := []
  /-- What is done to the whole text first. -/
  prepare? : Option (Text → Text) := none
  /-- The charset of files. -/
  charset? : Option Charset := none

namespace Options

/-- Whether sections of this name are dropped. -/
def isExcluded (o : Options) (name : Text) : Bool :=
  o.excluded.contains name || !(o.included.isEmpty || o.included.contains name)

/-- The text after what is to be done to it first. -/
def prepared (o : Options) (t : Text) : Text :=
  match o.prepare? with
  | none => t
  | some prepare => prepare t

/-- The options on one line, each with its name. A text is quoted; what is done first, a function,
is shown as whether there is one. -/
def describe (o : Options) : Text :=
  "IniOptions \x7b store_any_line: ".toList ++ Text.ofBool o.keepBare ++
  ", include_sections: ".toList ++ Text.bracketed (o.included.map Text.quoted) ++
  ", exclude_sections: ".toList ++ Text.bracketed (o.excluded.map Text.quoted) ++
  ", transform: ".toList ++ Text.ofBool o.prepare?.isSome ++
  ", encoding: ".toList ++
    (match o.charset? with
    | none => "None".toList
    | some c => "Some(".toList ++ Text.quoted c.name ++ [')']) ++
  " \x7d".toList

theorem isExcluded_iff {o : Options} {name : Text} :
    o.isExcluded name ↔ name ∈ o.excluded ∨ (o.included ≠ [] ∧ name ∉ o.included) := by
  simp [isExcluded]

end Options

end IniConfig
