import IniConfig.Encoding.Utf8
import IniConfig.Fault
import IniConfig.Path

/-!
# Folders

A folder holds files by their places; it has no folders in it. What is written to a path is read
back from it (`read_write`).
-/

namespace IniConfig

/-- The files of a folder and of those around it, with their bytes. -/
abbrev Folder := List (Place × Bytes)

namespace Folder

def maxNameSize : Nat := 255

def maxPathSize : Nat := 4095

/-- The number of bytes of a name or path, which are kept in UTF-8. -/
def size (t : Text) : Nat := (Utf8.encode t).length

/-- What is wrong with a path whatever the files are. -/
def pathFault? (path : Text) : Option FileFault :=
  if path.contains '\x00' then some .zeroInName
  else if path = [] then some .missing
  else if maxPathSize < size path then some .nameTooLong
  else none

/-- Why a path does not lead on from a place. -/
def obstacle (f : Folder) (place : Place) : FileFault :=
  if maxNameSize < size place.name then .nameTooLong
  else if (f.lookup place).isSome then .notDirectory
  else .missing

def readAt (f : Folder) (place : Place) : Except FileFault Bytes :=
  if maxNameSize < size place.name then .error .nameTooLong
  else
    match f.lookup place with
    | none => .error .missing
    | some bs => .ok bs

/-- The folder with these bytes in the file at this place, new or not. -/
def writeAt (f : Folder) (place : Place) (bs : Bytes) : Except FileFault Folder :=
  if maxNameSize < size place.name then .error .nameTooLong
  else .ok ((place, bs) :: f.filter (·.1 ≠ place))

def read (f : Folder) (path : Text) : Except FileFault Bytes :=
  match pathFault? path with
  | some fault => .error fault
  | none =>
    match Path.target path with
    | .folder => .error .directory
    | .file place => f.readAt place
    | .slashed place | .beyond place => .error (f.obstacle place)

/-- The folder with these bytes in the file that this path leads to. A slash after the name makes
it the name of a folder, whatever is there. -/
def write (f : Folder) (path : Text) (bs : Bytes) : Except FileFault Folder :=
  match pathFault? path with
  | some fault => .error fault
  | none =>
    match Path.target path with
    | .folder | .slashed _ => .error .directory
    | .file place => f.writeAt place bs
    | .beyond place => .error (f.obstacle place)

theorem readAt_writeAt {f f' : Folder} {place : Place} {bs : Bytes}
    (h : f.writeAt place bs = .ok f') : f'.readAt place = .ok bs := by
  unfold writeAt at h
  split at h
  · cases h
  next hs =>
    injection h with h
    subst h
    simp [readAt, hs]

theorem read_write {f f' : Folder} {path : Text} {bs : Bytes} (h : f.write path bs = .ok f') :
    f'.read path = .ok bs := by
  unfold write at h
  unfold read
  cases hp : pathFault? path with
  | some fault => simp [hp] at h
  | none =>
    cases ht : Path.target path with
    | folder => simp [hp, ht] at h
    | file place => exact readAt_writeAt (by simpa [hp, ht] using h)
    | slashed place => simp [hp, ht] at h
    | beyond place => simp [hp, ht] at h

end Folder

end IniConfig
