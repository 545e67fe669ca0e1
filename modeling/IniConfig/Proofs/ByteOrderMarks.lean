import IniConfig.Proofs.Charsets
import IniConfig.Proofs.Requests

/-!
# Texts behind a byte order mark

Each form of Unicode has a mark of its own, which is the character FEFF written in it
(`UnicodeForm.mark_eq_encode`). No mark begins another, so the bytes of a text behind a mark are
read in the form that the mark names, whatever charset was asked for, and they come back as the text
(`UnicodeForm.decode_mark_append`). One mark is taken off: a second one is read as the character
that it is. Without a mark, the bytes of a text in UTF-8 are taken for marked only if the text
begins with that character, since no byte of a character is FE or FF (`Utf8.ofMark?_encode`).
-/

namespace IniConfig

/-- The forms of Unicode that a byte order mark can name. -/
inductive UnicodeForm where
  | utf8
  | utf16 (o : Utf16.ByteOrder)
deriving DecidableEq, Repr

namespace UnicodeForm

def charset : UnicodeForm → Charset
  | utf8 => .utf8
  | utf16 o => o.charset

/-- The byte order mark. -/
def mark : UnicodeForm → Bytes
  | utf8 => [0xEF, 0xBB, 0xBF]
  | utf16 .littleEndian => [0xFF, 0xFE]
  | utf16 .bigEndian => [0xFE, 0xFF]

/-- The bytes of a text, without a mark. Every character has some. -/
def encode : UnicodeForm → Text → Bytes
  | utf8, t => Utf8.encode t
  | utf16 o, t => Utf16.encode o t

theorem mark_eq_encode (f : UnicodeForm) : f.mark = f.encode ['\uFEFF'] := by
  rcases f with - | (- | -)
  · rfl
  · rfl
  · rfl

/-- A mark before a text is a character more in the text. -/
theorem mark_append_encode (f : UnicodeForm) (t : Text) :
    f.mark ++ f.encode t = f.encode ('\uFEFF' :: t) := by
  rw [mark_eq_encode]
  cases f with
  | utf8 => simp [encode, Utf8.encode]
  | utf16 o => simp [encode, Utf16.encode]

theorem run_encode (f : UnicodeForm) (t : Text) : f.charset.decoder.run (f.encode t) = t := by
  cases f with
  | utf8 => exact Utf8.run_encode t
  | utf16 o =>
    rw [charset, Utf16.ByteOrder.decoder_charset]
    exact Utf16.run_encode o t

/-! ## Marks at the start of bytes -/

theorem ofMark?_mark_append (f : UnicodeForm) (bs : Bytes) :
    Charset.ofMark? (f.mark ++ bs) = some (f.charset, bs) := by
  rcases f with - | (- | -)
  · rfl
  · rfl
  · rfl

theorem exists_of_mem_marks {x : Charset × Bytes} (h : x ∈ Charset.marks) :
    ∃ f : UnicodeForm, f.mark = x.2 := by
  simp only [Charset.marks, List.mem_cons, List.not_mem_nil, or_false] at h
  rcases h with rfl | rfl | rfl
  · exact ⟨utf8, rfl⟩
  · exact ⟨utf16 .littleEndian, rfl⟩
  · exact ⟨utf16 .bigEndian, rfl⟩

theorem ofMark?_eq_none_iff {bs : Bytes} :
    Charset.ofMark? bs = none ↔ ∀ f : UnicodeForm, ¬ f.mark <+: bs := by
  constructor
  · rintro h f ⟨rest, rfl⟩
    rw [ofMark?_mark_append] at h
    cases h
  · intro h
    rw [Charset.ofMark?, Option.map_eq_none_iff, List.find?_eq_none]
    intro x hx hstart
    obtain ⟨f, hf⟩ := exists_of_mem_marks hx
    exact h f (hf ▸ List.isPrefixOf_iff_prefix.1 hstart)

/-- A text behind a mark comes back, and nothing of the mark is left. -/
theorem decode_mark_append (c : Charset) (f : UnicodeForm) (t : Text) :
    c.decode (f.mark ++ f.encode t) = t := by
  rw [Charset.decode, ofMark?_mark_append]
  exact run_encode f t

end UnicodeForm

namespace Utf8

variable {t : Text}

/-- The mark of UTF-8 is the first character of what it is read as. -/
theorem mark_not_isPrefix_encode (h : t.head? ≠ some '\uFEFF') :
    ¬ UnicodeForm.utf8.mark <+: encode t := by
  rintro ⟨rest, hrest⟩
  have hmark : decoder.run (UnicodeForm.utf8.mark ++ rest) = '\uFEFF' :: decoder.run rest :=
    runFrom_encodeChar '\uFEFF' rest
  rw [hrest, run_encode] at hmark
  exact h (by rw [hmark, List.head?_cons])

theorem toNat_lt_of_mem_encode {b : UInt8} (hb : b ∈ encode t) : b.toNat < 0xF5 := by
  obtain ⟨c, -, hb⟩ := List.mem_flatMap.1 hb
  have hbyte := toNat_of_mem_encodeChar hb
  omega

/-- Bytes of UTF-8 begin with a mark only if the text does. -/
theorem ofMark?_encode (h : t.head? ≠ some '\uFEFF') : Charset.ofMark? (encode t) = none := by
  rw [UnicodeForm.ofMark?_eq_none_iff]
  intro f hstart
  cases f with
  | utf8 => exact mark_not_isPrefix_encode h hstart
  | utf16 o =>
    have hmem : (0xFF : UInt8) ∈ (UnicodeForm.utf16 o).mark := by cases o <;> decide
    exact absurd (toNat_lt_of_mem_encode (hstart.subset hmem)) (by decide)

theorem decode_encode (h : t.head? ≠ some '\uFEFF') : Charset.utf8.decode (encode t) = t := by
  rw [Charset.decode_of_ofMark?_eq_none (ofMark?_encode h)]
  exact run_encode t

end Utf8

namespace Editor

theorem parseBytes_eq (e : Editor) (bs : Bytes) :
    e.parseBytes bs = e.parse (e.charset.decode bs) := rfl

/-- **A byte order mark decides how bytes are read, whatever the options say:** the bytes behind it
are read as the text that they are in the form of Unicode that it names, and a second mark is a
character of the text. Without a mark, where UTF-8 is the charset or none is given, bytes of UTF-8
are read as their text unless it begins with the character of the mark. -/
theorem parseBytes_of_marked (e : Editor) :
    (∀ (f : UnicodeForm) (t : Text),
      e.parseBytes (f.mark ++ f.encode t) = e.parse t ∧
        e.parseBytes (f.mark ++ (f.mark ++ f.encode t)) = e.parse ('\uFEFF' :: t)) ∧
      (e.charset = .utf8 → ∀ t : Text, t.head? ≠ some '\uFEFF' →
        e.parseBytes (Utf8.encode t) = e.parse t) := by
  constructor
  · intro f t
    have hone : e.charset.decode (f.mark ++ f.encode t) = t := f.decode_mark_append e.charset t
    have htwo : e.charset.decode (f.mark ++ (f.mark ++ f.encode t)) = '\uFEFF' :: t := by
      rw [f.mark_append_encode t]
      exact f.decode_mark_append e.charset ('\uFEFF' :: t)
    rw [parseBytes_eq, parseBytes_eq, hone, htwo]
    exact ⟨rfl, rfl⟩
  · intro he t ht
    rw [parseBytes_eq, he, Utf8.decode_encode ht]

/-- Under GBK, a text in UTF-16 is read by its mark. With two marks the first line begins with a
character before the bracket and is no header, so the entry is outside of sections. -/
theorem parseBytes_of_marked_once_and_twice :
    let e := Editor.new { charset? := some .gbk }
    let f := UnicodeForm.utf16 .bigEndian
    let t := "[\u00E9😀]\nx = 1\n".toList
    (e.parseBytes (f.mark ++ f.encode t)).2.document =
        [("\u00E9😀".toList, [⟨"x".toList, "1".toList⟩])] ∧
      (e.parseBytes (f.mark ++ (f.mark ++ f.encode t))).1 = .error (.entryOutsideSection 2) ∧
      (Editor.new {}).charset = .utf8 ∧ t.head? ≠ some '\uFEFF' ∧
      ((Editor.new {}).parseBytes (Utf8.encode t)).1 = .ok .nothing := by
  intro e f t
  have hbehind := (parseBytes_of_marked e).1 f t
  have hplain := (parseBytes_of_marked (Editor.new {})).2 rfl t (by decide)
  rw [hbehind.1, hbehind.2, hplain]
  exact ⟨by decide, by decide, rfl, by decide, by decide⟩

end Editor

end IniConfig
