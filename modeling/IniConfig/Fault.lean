import IniConfig.Text.Basic

/-!
# What can go wrong

The causes for which a request is refused, and the message for each of them.
-/

namespace IniConfig

/-- Why a file could not be read or written. -/
inductive FileFault where
  | missing
  | directory
  /-- Where the path needs a folder there is a file. -/
  | notDirectory
  | nameTooLong
  /-- The path has the character of number zero in it. -/
  | zeroInName
  | other (reason : Text)
deriving DecidableEq, Repr

/-- The reason in words. -/
def FileFault.message : FileFault → Text
  | missing => "No such file or directory (os error 2)".toList
  | directory => "Is a directory (os error 21)".toList
  | notDirectory => "Not a directory (os error 20)".toList
  | nameTooLong => "File name too long (os error 36)".toList
  | zeroInName => "file name contained an unexpected NUL byte".toList
  | other reason => reason

/-- Why a request is refused. -/
inductive Fault where
  /-- An entry stands at this line, counted from one, where no section is open. -/
  | entryOutsideSection (line : Nat)
  /-- A second section of this name has entries. -/
  | duplicateSection (name : Text)
  /-- There is no section of this name. -/
  | sectionNotFound (name : Text)
  /-- The section has no entry with this key. -/
  | entryNotFound (name key : Text)
  /-- All content was asked for before there was any. -/
  | nothingParsed
  /-- The current section was asked for, and there is none. -/
  | noCurrentSection
  /-- The file of this name could not be read or written. -/
  | file (name : Text) (cause : FileFault)
deriving DecidableEq, Repr

namespace Fault

/-- Text in single quotes. -/
def quote (t : Text) : Text := '\'' :: t ++ ['\'']

/-- The fault in words. -/
def message : Fault → Text
  | entryOutsideSection line => "Item outside of any section at line ".toList ++ Text.ofNat line
  | duplicateSection name => "Duplicate section ".toList ++ quote name
  | sectionNotFound name => "Section ".toList ++ quote name ++ " not found".toList
  | entryNotFound name key =>
    "Item ".toList ++ quote key ++ " not found in section ".toList ++ quote name
  | nothingParsed => "No INI content has been parsed".toList
  | noCurrentSection => "No current section is set".toList
  | file name cause => "I/O error for ".toList ++ quote name ++ [':', ' '] ++ cause.message

/-- Whether something that was asked for is not there. -/
def isNotFound : Fault → Bool
  | sectionNotFound _ | entryNotFound _ _ => true
  | _ => false

/-- Whether a text could not be parsed. -/
def isParseFault : Fault → Bool
  | entryOutsideSection _ | duplicateSection _ => true
  | _ => false

/-- The fault of the file system behind the fault. -/
def cause? : Fault → Option FileFault
  | file _ cause => some cause
  | _ => none

end Fault

end IniConfig
