import IniConfig.Encoding.Utf8
import IniConfig.Line

/-!
# The grammar of a line

The forms of a line as parsing expressions. An expression reads a beginning of a text and never
takes back what it has read; of two expressions the second is tried only where the first fails. The
rules of the grammar leave a tree of the parts that they have read, and `classify` reads what the
line says off the tree. The recognisers of `Line` read the same without a tree.
-/

namespace IniConfig

/-- The parts of a line. -/
inductive Part where
  | line | comment | item | key | value | sectionHeader | sectionName | endOfInput
deriving DecidableEq, Repr

/-- A part that was read, with its text and the parts within it in order. -/
structure Node where
  part : Part
  text : Text
  inner : List Node

/-- A parsing expression. -/
inductive Peg where
  | char (c : Char)
  | any
  | endOfInput
  | seq (e f : Peg)
  | choice (e f : Peg)
  /-- As often as the expression succeeds, which may be never. -/
  | many (e : Peg)
  /-- Succeeds where the expression fails, and reads nothing. -/
  | not (e : Peg)
  /-- What the expression reads is a part. -/
  | rule (part : Part) (e : Peg)

namespace Peg

/-- The parts that were read, and the rest of the text. -/
abbrev Reader := Text → Option (List Node × Text)

/-- Reads one character of a kind. -/
def one (p : Char → Bool) : Reader
  | [] => none
  | c :: r => if p c then some ([], r) else none

/-- Reads over and over until it fails; a reader that reads nothing is not tried again. -/
def again (read : Reader) (t : Text) : List Node × Text :=
  match read t with
  | none => ([], t)
  | some (ns, r) =>
    if r.length < t.length then (ns ++ (again read r).1, (again read r).2) else (ns, r)
termination_by t.length

def read : Peg → Text → Option (List Node × Text)
  | char c, t => one (· = c) t
  | any, t => one (fun _ => true) t
  | endOfInput, t => if t = [] then some ([⟨.endOfInput, [], []⟩], []) else none
  | seq e f, t => do
    let (ns, r) ← e.read t
    let (ns', r') ← f.read r
    some (ns ++ ns', r')
  | choice e f, t => (e.read t).or (f.read t)
  | many e, t => some (again e.read t)
  | not e, t => if (e.read t).isSome then none else some ([], t)
  | rule part e, t =>
    (e.read t).map fun (ns, r) => ([⟨part, t.take (t.length - r.length), ns⟩], r)

end Peg

namespace Grammar

open Peg

def comment : Peg := rule .comment (seq (choice (char ';') (char '#')) (many any))

def key : Peg := rule .key (many (seq (.not (choice (char '=') (char '\n'))) any))

def value : Peg := rule .value (many (seq (.not (char '\n')) any))

def item : Peg := rule .item (seq (seq key (char '=')) value)

/-- The name stops before a `]` that ends the text, and before a line feed. -/
def sectionName : Peg :=
  rule .sectionName
    (many (seq (seq (.not (seq (char ']') endOfInput)) (.not (char '\n'))) any))

def sectionHeader : Peg := rule .sectionHeader (seq (seq (char '[') sectionName) (char ']'))

/-- A line has one of the forms from its first character to its last. -/
def line : Peg :=
  rule .line (choice (choice (seq comment endOfInput) (seq item endOfInput))
    (seq sectionHeader endOfInput))

/-- The text of the part at this place within a part. -/
def innerText (n : Node) (i : Nat) : Text := (n.inner[i]?.map (·.text)).getD []

/-- What the text says by the first of these parts. -/
def meaning (t : Text) (parts : List Node) : Line :=
  match parts.head? with
  | none => .bare t
  | some n =>
    match n.part with
    | .comment => .skipped
    | .item => .entry (Text.trim (innerText n 0)) (Text.trim (innerText n 1))
    | .sectionHeader => .header (innerText n 0)
    | _ => .bare t

/-- Whether the text has too many characters. They are counted only where there are too many
bytes. -/
def exceedsMaxLength (t : Text) : Bool :=
  Line.maxLength < (Utf8.encode t).length && Line.maxLength < t.length

/-- What the text of one line says by the grammar. -/
def classify (t : Text) : Line :=
  if t = [] ∨ exceedsMaxLength t then .skipped
  else
    ((line.read t).map fun (parse, _) => meaning t (parse.head?.elim [] (·.inner))).getD (.bare t)

end Grammar

end IniConfig
