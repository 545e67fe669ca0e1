import IniConfig.Proofs.EndedLines
import IniConfig.Proofs.LineForms
import IniConfig.Proofs.SavedFiles

/-!
# Content that is saved under UTF-16

Nothing is written in UTF-16: where that is the charset, the content is written in UTF-8, and its
bytes are then read two at a time. Without the character of number zero in the content no byte is
zero, so both halves of every unit count, and each character that is read is wide: its number does
not fit into one byte (`Utf16.isWide_run_encode`). Line ends, brackets and the equals sign are not
wide, so a file of wide characters is one line that says nothing, and it is read as no section
without a fault (`Parsed.ofText_of_isWide`). The content comes back from its file only where there
is nothing to come back (`Workspace.comesBackFrom_iff_of_utf16`).
-/

namespace IniConfig

/-- No character has a number that fits into one byte. -/
def Text.IsWide (t : Text) : Prop := ∀ c ∈ t, 0x100 ≤ c.toNat

/-! ## Bytes of UTF-8, two at a time -/

namespace Utf8

theorem pos_of_mem_encodeChar {c : Char} {b : UInt8} (hc : c ≠ '\x00') (hb : b ∈ encodeChar c) :
    0 < b.toNat := by
  have hpos : c.toNat ≠ 0 := fun h => hc (Char.toNat_inj.1 h)
  have hbyte := toNat_of_mem_encodeChar hb
  omega

theorem pos_of_mem_encode {t : Text} (ht : '\x00' ∉ t) : ∀ b ∈ encode t, 0 < b.toNat := by
  intro b hb
  obtain ⟨c, hc, hb⟩ := List.mem_flatMap.1 hb
  exact pos_of_mem_encodeChar (fun h => ht (h ▸ hc)) hb

end Utf8

namespace Utf16

variable {o : ByteOrder}

theorem ByteOrder.encode_charset (o : ByteOrder) (t : Text) :
    o.charset.encode t = Utf8.encode t := by
  cases o <;> rfl

/-- What is remembered of bytes that are not zero. -/
structure Pending.IsWide (p : Pending) : Prop where
  high : ∀ u, p.high? = some u → 0xD800 ≤ u ∧ u < 0xDC00
  byte : ∀ b, p.byte? = some b → 0 < b ∧ b < 0x100

theorem unit_bounds {a b : Nat} (ha : 0 < a ∧ a < 0x100) (hb : 0 < b ∧ b < 0x100) :
    0x100 ≤ o.unit a b ∧ o.unit a b < 0x10000 := by
  cases o <;> simp only [ByteOrder.unit] <;> omega

theorem isWide_replacement : Text.IsWide [replacement] := by
  intro c hc
  obtain rfl := List.mem_singleton.1 hc
  decide

theorem isWide_ofNat {n : Nat} (hn : 0x100 ≤ n) (hvalid : n.isValidChar) :
    Text.IsWide [Char.ofNat n] := by
  intro c hc
  obtain rfl := List.mem_singleton.1 hc
  rwa [toNat_charOfNat hvalid]

theorem isWide_begin {u : Nat} (hu : 0x100 ≤ u ∧ u < 0x10000) :
    Text.IsWide (begin u).1 ∧ ∀ h, (begin u).2 = some h → 0xD800 ≤ h ∧ h < 0xDC00 := by
  unfold begin
  split
  next hhigh =>
    refine ⟨nofun, fun h hh => ?_⟩
    obtain rfl := Option.some.inj hh
    exact isHigh_iff.1 hhigh
  next hhigh =>
    split
    next => exact ⟨isWide_replacement, nofun⟩
    next hlow =>
      rw [isHigh_iff] at hhigh
      rw [isLow_iff] at hlow
      have hvalid : u.isValidChar := by
        unfold Nat.isValidChar
        omega
      exact ⟨isWide_ofNat hu.1 hvalid, nofun⟩

theorem isWide_readUnit {high? : Option Nat} {u : Nat}
    (hhigh : ∀ h, high? = some h → 0xD800 ≤ h ∧ h < 0xDC00) (hu : 0x100 ≤ u ∧ u < 0x10000) :
    Text.IsWide (readUnit high? u).1 ∧
      ∀ h, (readUnit high? u).2 = some h → 0xD800 ≤ h ∧ h < 0xDC00 := by
  cases high? with
  | none => exact isWide_begin hu
  | some h =>
    have hh := hhigh h rfl
    simp only [readUnit]
    split
    next hlow =>
      -- the two halves of a pair make a character beyond the units
      rw [isLow_iff] at hlow
      have hvalid : (0x10000 + (h - 0xD800) * 0x400 + (u - 0xDC00)).isValidChar := by
        unfold Nat.isValidChar
        omega
      refine ⟨isWide_ofNat (by omega) hvalid, ?_⟩
      intro high hnone
      cases hnone
    next =>
      obtain ⟨hbegin, hnext⟩ := isWide_begin hu
      refine ⟨fun c hc => ?_, hnext⟩
      rcases List.mem_cons.1 hc with rfl | hc
      · exact isWide_replacement _ List.mem_cons_self
      · exact hbegin c hc

/-- One more byte that is not zero keeps what is read wide. -/
theorem isWide_read {p : Pending} {b : Nat} (hp : p.IsWide) (hb : 0 < b ∧ b < 0x100) :
    Text.IsWide (read o p b).1 ∧ (read o p b).2.IsWide := by
  obtain ⟨high?, byte?⟩ := p
  cases byte? with
  | none =>
    refine ⟨nofun, hp.high, fun first hfirst => ?_⟩
    obtain rfl := Option.some.inj hfirst
    exact hb
  | some first =>
    obtain ⟨hwide, hnext⟩ := isWide_readUnit hp.high (unit_bounds (o := o) (hp.byte first rfl) hb)
    exact ⟨hwide, hnext, nofun⟩

theorem isWide_runFrom {p : Pending} {bs : Bytes} (hp : p.IsWide)
    (hbs : ∀ b ∈ bs, 0 < b.toNat) : Text.IsWide ((decoder o).runFrom p bs) := by
  induction bs generalizing p with
  | nil =>
    obtain ⟨high?, byte?⟩ := p
    cases high? <;> cases byte?
    · exact nofun
    all_goals exact isWide_replacement
  | cons b bs ih =>
    obtain ⟨hread, hnext⟩ := isWide_read (o := o) hp ⟨hbs b List.mem_cons_self, b.toNat_lt⟩
    intro c hc
    rcases List.mem_append.1 hc with hc | hc
    · exact hread c hc
    · exact ih hnext (fun b hb => hbs b (List.mem_cons_of_mem _ hb)) c hc

theorem isWide_run_encode {t : Text} (ht : '\x00' ∉ t) (o : ByteOrder) :
    Text.IsWide ((decoder o).run (Utf8.encode t)) :=
  isWide_runFrom ⟨nofun, nofun⟩ (Utf8.pos_of_mem_encode ht)

/-- With the character of number zero, what is written can be read as a header. -/
example : (decoder .littleEndian).run (Utf8.encode "[\x00a\x00]\x00".toList) = "[a]".toList := by
  decide

end Utf16

/-! ## Wide texts -/

namespace Text.IsWide

variable {t : Text}

theorem not_mem (h : t.IsWide) {c : Char} (hc : c.toNat < 0x100) : c ∉ t :=
  fun hmem => Nat.not_lt.2 (h c hmem) hc

theorem lines_eq (h : t.IsWide) : t.lines = [t] := by
  have hreturn : '\r' ∉ t := h.not_mem (by decide)
  have hcount : t.count '\n' ≤ 1 := by
    rw [List.count_eq_zero.2 (h.not_mem (by decide))]
    exact Nat.zero_le 1
  rw [lines, delimiter_eq_cr_iff.2 hcount, List.splitOn_eq_singleton hreturn, List.map_singleton,
    dropReturns_eq_self hreturn]

/-- A wide line is no entry and no header. -/
theorem classify_eq (h : t.IsWide) :
    Line.classify t = .skipped ∨ Line.classify t = .bare t := by
  cases hl : Line.classify t with
  | skipped => exact Or.inl rfl
  | bare u =>
    cases Line.classify_eq_iff.1 hl
    exact Or.inr rfl
  | entry key value =>
    cases Line.classify_eq_iff.1 hl with
    | entry hr hn ht hk => exact absurd (by simp [ht]) (h.not_mem (c := '=') (by decide))
  | header name =>
    cases Line.classify_eq_iff.1 hl with
    | header hr hn he ht => exact absurd (by simp [ht]) (h.not_mem (c := '[') (by decide))

end Text.IsWide

theorem Parsed.ofText_of_isWide {o : Options} {t : Text} (ho : o.prepare? = none)
    (ht : t.IsWide) : ofText o t = ⟨[], [], none⟩ := by
  rw [ofText_of_prepare?_eq_none ho, ht.lines_eq, List.map_singleton]
  rcases ht.classify_eq with hl | hl
  · rw [hl]
    rfl
  · rw [hl]
    simp [ofLines, ofLinesFrom, Progress.push, Progress.close, Progress.stop]

/-- The same is read of two texts if they are answered alike and give the same sections. -/
theorem Parsed.ofText_eq_iff {o : Options} {t u : Text} :
    ofText o t = ofText o u ↔
      (ofText o t).reply = (ofText o u).reply ∧ (ofText o t).document = (ofText o u).document := by
  constructor
  · intro h
    rw [h]
    exact ⟨rfl, rfl⟩
  · rintro ⟨hreply, hdocument⟩
    have hnames : (ofText o t).readNames = (ofText o u).readNames := by
      rw [readNames_ofText, readNames_ofText, hdocument]
    generalize ofText o t = p at *
    generalize ofText o u = q at *
    obtain ⟨d, ns, f⟩ := p
    obtain ⟨d', ns', f'⟩ := q
    obtain rfl : d = d' := hdocument
    obtain rfl : ns = ns' := hnames
    cases f <;> cases f' <;> simp_all [reply]

namespace Editor

variable {e e' : Editor} {o : Utf16.ByteOrder}

/-- The text that UTF-16 makes of the bytes in which the content is saved. -/
def misread (e : Editor) (o : Utf16.ByteOrder) : Text :=
  (Utf16.decoder o).run (Utf8.encode e.render)

theorem renderBytes_of_utf16 (h : e.charset = o.charset) :
    e.renderBytes = Utf8.encode e.render := by
  have hbytes : e.renderBytes = e.charset.encode e.render := rfl
  rw [hbytes, h, Utf16.ByteOrder.encode_charset]

theorem decode_renderBytes_of_utf16 (h : e.charset = o.charset) (h' : e'.charset = o.charset) :
    e'.charset.decode e.renderBytes = e.misread o := by
  rw [Charset.decode_of_ofMark?_eq_none e.ofMark?_renderBytes, h', renderBytes_of_utf16 h,
    Utf16.ByteOrder.decoder_charset]
  rfl

end Editor

namespace Workspace

/-- Reading the file is answered as reading the text is, and leaves the same sections. -/
def ComesBackFrom (w : Workspace) (file t : Text) : Prop :=
  (w.run (.parseFile file)).1 = (w.run (.parse t)).1 ∧
    (w.run (.parseFile file)).2.editor.document = (w.run (.parse t)).2.editor.document

/-- A text that the file is read as stands for another exactly if the same is read of both. -/
theorem comesBackFrom_iff {w : Workspace} {file t u : Text}
    (h : w.run (.parseFile file) = w.run (.parse u)) :
    w.ComesBackFrom file t ↔
      Parsed.ofText w.editor.options u = Parsed.ofText w.editor.options t := by
  have hreply (v : Text) : (w.run (.parse v)).1 = (Parsed.ofText w.editor.options v).reply :=
    Editor.fst_parse _ v
  have hdocument (v : Text) :
      (w.run (.parse v)).2.editor.document = (Parsed.ofText w.editor.options v).document :=
    Editor.document_parse _ v
  rw [ComesBackFrom, h, hreply, hreply, hdocument, hdocument, Parsed.ofText_eq_iff]

/-- **Content that is saved under UTF-16 is saved in UTF-8, and comes back from its file only if
its misreading says what the content says.** Where neither a character of number zero nor a change
to the text comes in between, the misreading says nothing. -/
theorem comesBackFrom_iff_of_utf16 {w : Workspace} {e : Editor} {o : Utf16.ByteOrder}
    {file : Text} {answer : Answer} (h : w.editor.charset = o.charset)
    (h' : e.charset = o.charset) (hw : (w.run (.writeFile file)).1 = .ok answer) :
    (w.run (.writeFile file)).2.folder.read file = .ok (Utf8.encode w.editor.render) ∧
      (({ (w.run (.writeFile file)).2 with editor := e } : Workspace).ComesBackFrom file
          w.editor.render ↔
        Parsed.ofText e.options (w.editor.misread o) =
          Parsed.ofText e.options w.editor.render) ∧
      (e.options.prepare? = none → '\x00' ∉ w.editor.render →
        Parsed.ofText e.options (w.editor.misread o) = ⟨[], [], none⟩) := by
  refine ⟨?_, ?_, ?_⟩
  · rw [read_of_writeFile hw, Editor.renderBytes_of_utf16 h]
  · apply comesBackFrom_iff
    rw [run_parseFile_of_writeFile hw, Editor.decode_renderBytes_of_utf16 h h']
  · intro hprepare hzero
    exact Parsed.ofText_of_isWide hprepare (Utf16.isWide_run_encode hzero o)

/-- One entry is enough: the file is read without a fault, and the section is gone. -/
theorem not_comesBackFrom_one_entry :
    let o : Options := { charset? := some .utf16le }
    let w := ((new o []).run
      (.edit (.named "a".toList) (.add "x".toList (.one (.text "1".toList))))).2
    let w' : Workspace := { (w.run (.writeFile "a.ini".toList)).2 with editor := .new o }
    (w.run (.writeFile "a.ini".toList)).1 = .ok (.bytes w.editor.renderBytes) ∧
      (w'.run (.parseFile "a.ini".toList)).1 = .ok .nothing ∧
      ¬ w'.ComesBackFrom "a.ini".toList w.editor.render := by
  intro o w w'
  refine ⟨by decide, by decide, fun h => ?_⟩
  exact absurd h.2 (by decide)

/-- In the other order of bytes, two sections are gone as well; without content, nothing is. -/
theorem comesBackFrom_two_sections_utf16be :
    let o : Options := { charset? := some .utf16be }
    let w := ((new o []).run (.parse "[a]\nx = 1\n[\u00E9]\ny = 2\n".toList)).2
    let w' : Workspace := { (w.run (.writeFile "a.ini".toList)).2 with editor := .new o }
    ¬ w'.ComesBackFrom "a.ini".toList w.editor.render ∧
      ({ ((new o []).run (.writeFile "a.ini".toList)).2 with editor := .new o } :
        Workspace).ComesBackFrom "a.ini".toList [] := by
  intro o w w'
  have hw : (w.run (.writeFile "a.ini".toList)).1 = .ok (.bytes w.editor.renderBytes) := by
    decide
  obtain ⟨-, hiff, hnothing⟩ :=
    comesBackFrom_iff_of_utf16 (e := .new o) (o := .bigEndian) rfl rfl hw
  constructor
  · rw [hiff, hnothing rfl (by decide)]
    decide
  · have hempty : ((new o []).run (.writeFile "a.ini".toList)).1 = .ok (.bytes []) := by decide
    exact (comesBackFrom_iff_of_utf16 (e := .new o) (o := .bigEndian) rfl rfl hempty).2.1.2 rfl

end Workspace

end IniConfig
