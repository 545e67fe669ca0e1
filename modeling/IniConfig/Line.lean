import IniConfig.Text.Blank

/-!
# Lines

A text with at least two line feeds is cut at its line feeds, any other at its carriage returns;
then the carriage returns that are left are dropped. So texts of three lines or more read the same
with any of the three customary line ends.

A line is a comment, an entry or a section header if the whole line has that form, tried in this
order; any other line is bare. Each form has a recogniser, which reads as much of a text as it can
and never takes back what it has read. A line feed stands in a line only if the text was cut at
carriage returns, and such a line is no entry and no header.
-/

namespace IniConfig.Text

/-- The character at which the text is cut into lines. -/
def delimiter (t : Text) : Char := if t.count '\n' ≤ 1 then '\r' else '\n'

/-- The text without its carriage returns. -/
def dropReturns (t : Text) : Text := t.filter (· ≠ '\r')

/-- The lines of the text; the empty text has one line. -/
def lines (t : Text) : List Text := (t.splitOn t.delimiter).map dropReturns

theorem delimiter_eq_lf_iff {t : Text} : t.delimiter = '\n' ↔ 2 ≤ t.count '\n' := by
  unfold delimiter; split <;> simp <;> omega

theorem delimiter_eq_cr_iff {t : Text} : t.delimiter = '\r' ↔ t.count '\n' ≤ 1 := by
  unfold delimiter; split <;> simp <;> omega

theorem not_mem_dropReturns (t : Text) : '\r' ∉ dropReturns t := by simp [dropReturns]

theorem cr_not_mem_of_mem_lines {t l : Text} (h : l ∈ lines t) : '\r' ∉ l := by
  obtain ⟨p, -, rfl⟩ := List.mem_map.1 h
  exact not_mem_dropReturns p

/-- One line feed is not enough to be a line end. -/
example : lines "a\r\nb".toList = ["a".toList, "\nb".toList] := by decide

end IniConfig.Text

namespace IniConfig

/-- What one line says. -/
inductive Line where
  /-- Nothing: the line is empty, too long or a comment. -/
  | skipped
  /-- A section of this name begins. -/
  | header (name : Text)
  | entry (key value : Text)
  | bare (text : Text)
deriving DecidableEq, Repr

namespace Line

/-- The number of characters up to which a line is read at all. -/
def maxLength : Nat := 4096

/-- A recogniser reads a beginning of a text: what the beginning says, and the rest. -/
abbrev Recogniser := Text → Option (Line × Text)

/-- A comment begins with `;` or `#` and takes all that follows. -/
def comment : Recogniser
  | [] => none
  | c :: _ => if c = ';' ∨ c = '#' then some (skipped, []) else none

/-- The characters of a key as it is written. -/
def isKeyChar (c : Char) : Bool := c ≠ '=' && c ≠ '\n'

/-- The characters of a value as it is written. -/
def isValueChar (c : Char) : Bool := c ≠ '\n'

/-- An entry is a key, `=` and a value; blank characters around key and value do not count. -/
def keyAndValue : Recogniser := fun t =>
  match t.dropWhile isKeyChar with
  | '=' :: r => some (entry (Text.trim (t.takeWhile isKeyChar))
      (Text.trim (r.takeWhile isValueChar)), r.dropWhile isValueChar)
  | _ => none

/-- The name in a header, and the rest: it stops before a `]` that ends the text and before a
line feed. -/
def sectionName : Text → Text × Text
  | [] => ([], [])
  | c :: r =>
    if c = ']' ∧ r = [] ∨ c = '\n' then ([], c :: r)
    else (sectionName r).map (c :: ·) id

def bracketedName : Recogniser
  | '[' :: t =>
    match sectionName t with
    | (name, ']' :: rest) => some (header name, rest)
    | _ => none
  | _ => none

/-- What a recogniser says about the whole text. -/
def Recogniser.whole (recognise : Recogniser) (t : Text) : Option Line :=
  match recognise t with
  | some (line, []) => some line
  | _ => none

/-- What the text of one line says. -/
def classify (t : Text) : Line :=
  if t = [] ∨ maxLength < t.length then skipped
  else ([comment, keyAndValue, bracketedName].findSome? (·.whole t)).getD (bare t)

theorem sectionName_append (t : Text) : (sectionName t).1 ++ (sectionName t).2 = t := by
  fun_induction sectionName t <;> simp_all

/-- The name ends at the last bracket, and may hold others. -/
example : classify "[a]b]".toList = header "a]b".toList := by decide

/-- An entry is tried before a header. -/
example : classify "[a=b]".toList = entry "[a".toList "b]".toList := by decide

/-- A line feed leaves a line bare, wherever it stands. -/
example : classify "a=b\n".toList = bare "a=b\n".toList := by decide

end Line

end IniConfig
