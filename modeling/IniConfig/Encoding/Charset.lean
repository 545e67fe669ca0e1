import IniConfig.Encoding.Gbk
import IniConfig.Encoding.Utf16
import IniConfig.Encoding.Utf8
import IniConfig.Encoding.Windows1252

/-!
# Charsets

Text from bytes and bytes from text. A byte order mark at the start of the bytes decides how they
are read, whatever charset was asked for, and is not part of the text. Text is never written in
UTF-16: where that was asked for, UTF-8 is written, and no mark before it.
-/

namespace IniConfig

/-- The charsets in which text can be kept as bytes. -/
inductive Charset where
  | utf8
  | gbk
  | windows1252
  | utf16le
  | utf16be
deriving DecidableEq, Repr

namespace Charset

/-- The registered name of the charset. -/
def name : Charset → Text
  | utf8 => "UTF-8".toList
  | gbk => "GBK".toList
  | windows1252 => "windows-1252".toList
  | utf16le => "UTF-16LE".toList
  | utf16be => "UTF-16BE".toList

/-- The decoder of the charset. -/
def decoder : Charset → Decoder
  | utf8 => Utf8.decoder
  | gbk => Gbk.decoder
  | windows1252 => Windows1252.decoder
  | utf16le => Utf16.decoder .littleEndian
  | utf16be => Utf16.decoder .bigEndian

/-- The byte order marks. -/
def marks : List (Charset × Bytes) :=
  [(utf8, [0xEF, 0xBB, 0xBF]), (utf16le, [0xFF, 0xFE]), (utf16be, [0xFE, 0xFF])]

/-- The charset that a byte order mark names, and the bytes after the mark. -/
def ofMark? (bs : Bytes) : Option (Charset × Bytes) :=
  (marks.find? fun (_, mark) => mark.isPrefixOf bs).map fun (c, mark) => (c, bs.drop mark.length)

/-- The text of the bytes, read in this charset unless a byte order mark names another. -/
def decode (c : Charset) (bs : Bytes) : Text :=
  match ofMark? bs with
  | some (marked, rest) => marked.decoder.run rest
  | none => c.decoder.run bs

/-- The reference by number that is written for a character without a code. -/
def reference (c : Char) : Text := ['&', '#'] ++ Text.ofNat c.toNat ++ [';']

/-- The bytes of a text whose characters have codes, or references in their place. -/
def encodeWith (encodeChar? : Char → Option Bytes) (t : Text) : Bytes :=
  t.flatMap fun c => (encodeChar? c).getD (Utf8.encode (reference c))

/-- The bytes that are written for a text. -/
def encode : Charset → Text → Bytes
  | utf8, t | utf16le, t | utf16be, t => Utf8.encode t
  | gbk, t => encodeWith Gbk.encodeChar? t
  | windows1252, t => encodeWith (fun c => (Windows1252.encodeChar? c).map ([·])) t

end Charset

end IniConfig
