import IniConfig.Text.Basic

/-!
# Entries and sections

An entry is a key with its value. A line without structure that was kept is an entry as well: its
key is the reserved `bareKey`, its value the line, and it is written as that line alone.

A section is the list of its entries in the order in which they came. A key may occur any number
of times; reading one value takes the first.
-/

namespace IniConfig

/-- A key with its value. -/
structure Entry where
  key : Text
  value : Text
deriving DecidableEq, Repr

namespace Entry

/-- The reserved key `{NONAME}` of the lines that were kept without structure. -/
def bareKey : Text := ['{', 'N', 'O', 'N', 'A', 'M', 'E', '}']

/-- The entry of a line without structure. -/
def ofBare (line : Text) : Entry := ⟨bareKey, line⟩

/-- Whether the entry is a line without structure. -/
def isBare (e : Entry) : Bool := e.key = bareKey

/-- The line that is written for the entry. -/
def render (e : Entry) : Text := if e.isBare then e.value else e.key ++ [' ', '=', ' '] ++ e.value

@[simp] theorem isBare_ofBare (line : Text) : (ofBare line).isBare := by simp [ofBare, isBare]

theorem render_of_key_ne {e : Entry} (h : e.key ≠ bareKey) :
    e.render = e.key ++ [' ', '=', ' '] ++ e.value := by simp [render, isBare, h]

theorem render_of_key_eq {e : Entry} (h : e.key = bareKey) : e.render = e.value := by
  simp [render, isBare, h]

end Entry

abbrev Section := List Entry

namespace Section

/-- The value of the first entry with this key. -/
def value? (s : Section) (key : Text) : Option Text := (s.find? (·.key = key)).map (·.value)

/-- The values of the entries whose key begins with this text, in order. -/
def valuesWithPrefix (s : Section) (start : Text) : List Text :=
  (s.filter (start.isPrefixOf ·.key)).map (·.value)

def hasKey (s : Section) (key : Text) : Bool := s.any (·.key = key)

/-- Whether the key of an entry begins with this text. -/
def hasPrefix (s : Section) (start : Text) : Bool := s.any (start.isPrefixOf ·.key)

def countKey (s : Section) (key : Text) : Nat := s.countP (·.key = key)

def eraseKey (s : Section) (key : Text) : Section := s.filter (·.key ≠ key)

/-- The first entry with this key, and the section without it. -/
def eraseFirst? (s : Section) (key : Text) : Option (Entry × Section) :=
  (s.find? (·.key = key)).map fun e => (e, s.eraseP (·.key = key))

/-- The section under its name, as it is written: the header, a line for each entry and an empty
line. -/
def render (name : Text) (s : Section) : Text :=
  '[' :: name ++ [']', '\n'] ++ s.flatMap (·.render ++ ['\n']) ++ ['\n']

theorem countKey_eq_zero_iff {s : Section} {key : Text} :
    s.countKey key = 0 ↔ s.hasKey key = false := by
  simp [countKey, hasKey, List.countP_eq_zero]

theorem eraseKey_eq_self {s : Section} {key : Text} (h : s.countKey key = 0) :
    s.eraseKey key = s := by
  simpa [eraseKey, countKey, List.countP_eq_zero, List.filter_eq_self] using h

theorem eraseFirst?_eq_none_iff {s : Section} {key : Text} :
    s.eraseFirst? key = none ↔ s.hasKey key = false := by
  simp [eraseFirst?, hasKey]

end Section

end IniConfig
