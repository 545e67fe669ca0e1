import IniConfig.CachedDocument
import IniConfig.Encoding.Decoder
import IniConfig.Scalar

/-!
# Operations on a document with a snapshot

Each operation as a value, so that runs of operations can be spoken of, and what a request is
answered with if it is not refused.
-/

namespace IniConfig

inductive Answer where
  /-- It is done, or there is nothing to show. -/
  | nothing
  | truth (b : Bool)
  | count (n : Nat)
  | text (t : Text)
  | texts (ts : List Text)
  | value (v : Scalar)
  | values (vs : List Scalar)
  | entry (e : Entry)
  | entries (s : Section)
  | bytes (bs : Bytes)
deriving DecidableEq, Repr

/-- The answer to a request, or why it is refused. -/
abbrev Reply := Except Fault Answer

/-- A question about a document that leaves its snapshot alone. -/
inductive Observation where
  | contains (name : Text)
  | size
  | isEmpty
  | names
  | section (name : Text)
  | render
  | equals (other : Document)
deriving DecidableEq, Repr

def Observation.answer (d : Document) : Observation → Answer
  | contains name => .truth (d.contains name)
  | size => .count d.length
  | isEmpty => .truth d.isEmpty
  | names => .texts d.names
  | .section name => (d.find? name).elim .nothing .entries
  | render => .text d.render
  | equals other => .truth (d = other)

/-- What can be asked of a document that is not to be changed. Only its snapshot may be. -/
inductive Look where
  | fetch (name : Text)
  | cache (name : Text)
  | observe (o : Observation)
deriving DecidableEq, Repr

/-- What can be done with a document and its snapshot. -/
inductive Operation where
  | clear
  | commit (name : Text) (content : Section)
  | append (name : Text) (e : Entry)
  | erase (name key : Text)
  | eraseFirst (name key : Text)
  | look (l : Look)
deriving DecidableEq, Repr

namespace CachedDocument

/-- Answers from the document or from its snapshot. -/
def look (c : CachedDocument) : Look → Reply × CachedDocument
  | .fetch name => (.ok ((c.fetch name).1.elim .nothing .entries), (c.fetch name).2)
  | .cache name =>
    match c.cache name with
    | .error fault => (.error fault, c)
    | .ok c => (.ok .nothing, c)
  | .observe o => (.ok (o.answer c.document), c)

/-- Does one operation; one that is refused changes nothing. -/
def perform (c : CachedDocument) : Operation → Reply × CachedDocument
  | .clear => (.ok .nothing, empty)
  | .commit name content =>
    match c.commit name content with
    | .error fault => (.error fault, c)
    | .ok c => (.ok .nothing, c)
  | .append name e => (.ok .nothing, c.append name e)
  | .erase name key =>
    match c.erase name key with
    | .error fault => (.error fault, c)
    | .ok (n, c) => (.ok (.count n), c)
  | .eraseFirst name key =>
    match c.eraseFirst name key with
    | .error fault => (.error fault, c)
    | .ok (e, c) => (.ok (.entry e), c)
  | .look l => c.look l

/-- The replies to the operations one after the other, and the document after them. -/
def performAll (c : CachedDocument) : List Operation → List Reply × CachedDocument
  | [] => ([], c)
  | op :: ops =>
    let (reply, c) := c.perform op
    let (replies, c) := c.performAll ops
    (reply :: replies, c)

end CachedDocument

end IniConfig
