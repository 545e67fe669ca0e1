import IniConfig.Number.Written
import IniConfig.Text.Blank

/-!
# Typed values

A value is kept as text. A scalar is written in the way of its type, and a text is read as a scalar
of a kind after the blank characters at its ends are dropped; a text that says no scalar of the
kind is read as the default of the kind.
-/

namespace IniConfig

/-- A typed value. -/
inductive Scalar where
  | integer (n : Int)
  | double (x : Floating)
  | single (x : Floating)
  | flag (b : Bool)
  | char (c : Char)
  | text (t : Text)
deriving DecidableEq, Repr

/-- The kinds of typed values. -/
inductive Kind where
  | integer (τ : IntegerType)
  | double
  | single
  | flag
  | char
  | text
deriving DecidableEq, Repr

namespace Scalar

/-- The text that is written for a typed value. -/
def write : Scalar → Text
  | integer n => IntegerType.write n
  | double x => x.write .double
  | single x => x.write .single
  | flag b => Text.ofBool b
  | char c => [c]
  | text t => t

end Scalar

namespace Kind

/-- The integers that fill 64 bits, with a sign. -/
def long : Kind := integer ⟨true, 64⟩

/-- The value of a text that says no value of the kind. -/
def default : Kind → Scalar
  | integer _ => .integer 0
  | double => .double (.zero .double false)
  | single => .single (.zero .single false)
  | flag => .flag false
  | char => .char '\x00'
  | text => .text []

/-- The truth value that a text says. -/
def readFlag? (t : Text) : Option Bool :=
  if t = Text.ofBool true then some true else if t = Text.ofBool false then some false else none

/-- The character that a text is. -/
def readChar? : Text → Option Char
  | [c] => some c
  | _ => none

/-- The value of the kind that a text says, blank characters included. -/
def read? : Kind → Text → Option Scalar
  | integer τ, t => (τ.read? t).map .integer
  | double, t => (Floating.read? .double t).map .double
  | single, t => (Floating.read? .single t).map .single
  | flag, t => (readFlag? t).map .flag
  | char, t => (readChar? t).map .char
  | text, t => some (.text t)

/-- The value of the kind that a text is read as. -/
def read (k : Kind) (t : Text) : Scalar := (k.read? t.trim).getD k.default

end Kind

end IniConfig
