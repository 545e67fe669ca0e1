import IniConfig.Text.Basic

/-!
# Paths

A path is followed step by step from the folder in use, or from the outermost folder if it begins
with a slash. Only these two and the folders around the one in use are known to be there. So a path
leads to one of these folders, to a file in one, or on from the place of a file.
-/

namespace IniConfig

/-- A folder that is known to be there. -/
inductive Level where
  /-- The folder so many steps outward from the one in use. -/
  | around (steps : Nat)
  | outermost
deriving DecidableEq, Repr

/-- The folder around a folder; around the outermost there is only itself. -/
def Level.outer : Level → Level
  | around n => around (n + 1)
  | outermost => outermost

/-- The place of a file: the folder that it is in, and its name there. -/
structure Place where
  level : Level
  name : Text
deriving DecidableEq, Repr

/-- Where a path leads. -/
inductive Target where
  | folder
  | file (place : Place)
  /-- The place of a file, with nothing but slashes after the name. -/
  | slashed (place : Place)
  /-- Somewhere beyond the place of a file, as though it were a folder. -/
  | beyond (place : Place)
deriving DecidableEq, Repr

namespace Path

/-- Where the steps of a path lead from a folder: no step and one dot stay in it, and two dots lead
outward. -/
def follow (level : Level) : List Text → Target
  | [] => .folder
  | step :: steps =>
    if step = [] ∨ step = ['.'] then follow level steps
    else if step = ['.', '.'] then follow level.outer steps
    else if steps = [] then .file ⟨level, step⟩
    else if steps.all List.isEmpty then .slashed ⟨level, step⟩
    else .beyond ⟨level, step⟩

/-- Where a path leads from the folder in use. -/
def target (path : Text) : Target :=
  follow (if path.head? = some '/' then .outermost else .around 0) (path.splitOn '/')

/-- One file has many paths. -/
example : target ".//./a".toList = target "a".toList := by decide

/-- The step out of a file's place is not taken back. -/
example : target "a/../b".toList = .beyond ⟨.around 0, ['a']⟩ := by decide

end Path

end IniConfig
