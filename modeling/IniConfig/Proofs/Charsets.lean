import IniConfig.Encoding.Charset

/-!
# Text comes back from its bytes

What is written of a text in UTF-8 is read as that text (`Utf8.run_encode`): the lead byte says how
many bytes follow, and each of them adds its six bits to those before. The bounds of the second byte
hold of every character, since a character has no shorter form, is no surrogate and is not beyond
Unicode. In UTF-16 a text comes back in either order of bytes (`Utf16.run_encode`): two bytes make
their unit again, and a unit is the first of a pair only where the character was beyond the units.
In windows-1252 the characters that have a byte come back (`Windows1252.run_encode`), as no two
bytes stand for one character.
-/

namespace IniConfig

theorem toNat_charOfNat {n : Nat} (h : n.isValidChar) : (Char.ofNat n).toNat = n := by
  rw [Char.ofNat, dif_pos h]
  rfl

/-- Without a mark, bytes are read in the charset that was asked for. -/
theorem Charset.decode_of_ofMark?_eq_none {c : Charset} {bs : Bytes} (h : ofMark? bs = none) :
    c.decode bs = c.decoder.run bs := by
  rw [decode, h]

namespace Utf8

variable {n bits missing least greatest : Nat}

/-! ## The bytes of a sequence -/

theorem runFrom_cons (p : Option Pending) (b : UInt8) (bs : Bytes) :
    decoder.runFrom p (b :: bs) =
      (read p b.toNat).1 ++ decoder.runFrom (read p b.toNat).2 bs := rfl

theorem toNat_ofNat (h : n < 0x100) : (UInt8.ofNat n).toNat = n := UInt8.toNat_ofNat_of_lt' h

theorem toNat_continuation (n : Nat) : (continuation n).toNat = 0x80 + n % 0x40 :=
  toNat_ofNat (by omega)

theorem read_within {b : Nat} (hl : least ≤ b) (hg : b ≤ greatest) :
    read (some ⟨bits, missing, least, greatest⟩) b =
      match missing with
      | 0 => ([Char.ofNat (bits * 0x40 + (b - 0x80))], none)
      | missing + 1 => ([], some ⟨bits * 0x40 + (b - 0x80), missing, 0x80, 0xBF⟩) := by
  have hb : ¬(b < least ∨ greatest < b) := by omega
  cases missing with
  | zero => exact if_neg hb
  | succ missing => exact if_neg hb

/-- A byte within its bounds adds its bits, and more are to come. -/
theorem runFrom_continuation (hl : least ≤ 0x80 + n % 0x40) (hg : 0x80 + n % 0x40 ≤ greatest)
    (bs : Bytes) :
    decoder.runFrom (some ⟨bits, missing + 1, least, greatest⟩) (continuation n :: bs) =
      decoder.runFrom (some ⟨bits * 0x40 + n % 0x40, missing, 0x80, 0xBF⟩) bs := by
  rw [runFrom_cons, toNat_continuation, read_within hl hg, Nat.add_sub_cancel_left]
  rfl

/-- The last byte within its bounds ends the character. -/
theorem runFrom_last (hl : least ≤ 0x80 + n % 0x40) (hg : 0x80 + n % 0x40 ≤ greatest)
    (bs : Bytes) :
    decoder.runFrom (some ⟨bits, 0, least, greatest⟩) (continuation n :: bs) =
      Char.ofNat (bits * 0x40 + n % 0x40) :: decoder.runFrom none bs := by
  rw [runFrom_cons, toNat_continuation, read_within hl hg, Nat.add_sub_cancel_left]
  rfl

/-! ## Lead bytes -/

theorem begin_one (h : n < 0x80) : begin n = ([Char.ofNat n], none) := if_pos h

theorem begin_two (hl : 0x80 ≤ n) (hg : n < 0x800) :
    begin (0xC0 + n / 0x40) = ([], some ⟨n / 0x40, 0, 0x80, 0xBF⟩) := by
  unfold begin
  rw [if_neg (by omega), if_neg (by omega), if_pos (by omega), Nat.add_sub_cancel_left]

theorem begin_three (hg : n < 0x10000) :
    begin (0xE0 + n / 0x1000) =
      ([], some ⟨n / 0x1000, 1, if n / 0x1000 = 0 then 0xA0 else 0x80,
        if n / 0x1000 = 0xD then 0x9F else 0xBF⟩) := by
  have hleast : 0xE0 + n / 0x1000 = 0xE0 ↔ n / 0x1000 = 0 := by omega
  have hgreatest : 0xE0 + n / 0x1000 = 0xED ↔ n / 0x1000 = 0xD := by omega
  unfold begin
  rw [if_neg (by omega), if_neg (by omega), if_neg (by omega), if_pos (by omega),
    Nat.add_sub_cancel_left]
  simp only [hleast, hgreatest]

theorem begin_four (hg : n < 0x110000) :
    begin (0xF0 + n / 0x40000) =
      ([], some ⟨n / 0x40000, 2, if n / 0x40000 = 0 then 0x90 else 0x80,
        if n / 0x40000 = 4 then 0x8F else 0xBF⟩) := by
  have hleast : 0xF0 + n / 0x40000 = 0xF0 ↔ n / 0x40000 = 0 := by omega
  have hgreatest : 0xF0 + n / 0x40000 = 0xF4 ↔ n / 0x40000 = 4 := by omega
  unfold begin
  rw [if_neg (by omega), if_neg (by omega), if_neg (by omega), if_neg (by omega),
    if_pos (by omega), Nat.add_sub_cancel_left]
  simp only [hleast, hgreatest]

/-! ## Characters and texts -/

theorem runFrom_lead (h : n < 0x100) (bs : Bytes) :
    decoder.runFrom none (UInt8.ofNat n :: bs) =
      (begin n).1 ++ decoder.runFrom (begin n).2 bs := by
  rw [runFrom_cons, toNat_ofNat h]
  rfl

theorem runFrom_one (h : n < 0x80) (bs : Bytes) :
    decoder.runFrom none (UInt8.ofNat n :: bs) = Char.ofNat n :: decoder.runFrom none bs := by
  rw [runFrom_lead (by omega), begin_one h]
  rfl

theorem runFrom_two (hl : 0x80 ≤ n) (hg : n < 0x800) (bs : Bytes) :
    decoder.runFrom none (UInt8.ofNat (0xC0 + n / 0x40) :: continuation n :: bs) =
      Char.ofNat n :: decoder.runFrom none bs := by
  have hn : n / 0x40 * 0x40 + n % 0x40 = n := by omega
  rw [runFrom_lead (by omega), begin_two hl hg, List.nil_append,
    runFrom_last (by omega) (by omega), hn]

/-- The bounds of the second byte keep out surrogates and shorter forms. -/
theorem runFrom_three (hl : 0x800 ≤ n) (hg : n < 0x10000) (hs : n < 0xD800 ∨ 0xDFFF < n)
    (bs : Bytes) :
    decoder.runFrom none
        (UInt8.ofNat (0xE0 + n / 0x1000) :: continuation (n / 0x40) :: continuation n :: bs) =
      Char.ofNat n :: decoder.runFrom none bs := by
  have hn : (n / 0x1000 * 0x40 + n / 0x40 % 0x40) * 0x40 + n % 0x40 = n := by omega
  rw [runFrom_lead (by omega), begin_three hg, List.nil_append, runFrom_continuation,
    runFrom_last (by omega) (by omega), hn]
  · split <;> omega
  · split <;> omega

/-- The bounds of the second byte keep out shorter forms and what is beyond Unicode. -/
theorem runFrom_four (hl : 0x10000 ≤ n) (hg : n < 0x110000) (bs : Bytes) :
    decoder.runFrom none
        (UInt8.ofNat (0xF0 + n / 0x40000) :: continuation (n / 0x1000) ::
          continuation (n / 0x40) :: continuation n :: bs) =
      Char.ofNat n :: decoder.runFrom none bs := by
  have hn : ((n / 0x40000 * 0x40 + n / 0x1000 % 0x40) * 0x40 + n / 0x40 % 0x40) * 0x40 +
      n % 0x40 = n := by omega
  rw [runFrom_lead (by omega), begin_four hg, List.nil_append, runFrom_continuation,
    runFrom_continuation (by omega) (by omega), runFrom_last (by omega) (by omega), hn]
  · split <;> omega
  · split <;> omega

/-- The bytes of a character are read as that character, whatever follows. -/
theorem runFrom_encodeChar (c : Char) (bs : Bytes) :
    decoder.runFrom none (encodeChar c ++ bs) = c :: decoder.runFrom none bs := by
  have hvalid : c.toNat < 0xD800 ∨ 0xDFFF < c.toNat ∧ c.toNat < 0x110000 := c.valid
  have hc : Char.ofNat c.toNat = c := Char.ofNat_toNat c
  unfold encodeChar
  generalize c.toNat = n at hvalid hc ⊢
  subst hc
  dsimp only
  split
  next h1 => exact runFrom_one h1 bs
  next h1 =>
    split
    next h2 => exact runFrom_two (by omega) h2 bs
    next h2 =>
      split
      next h3 => exact runFrom_three (by omega) h3 (by omega) bs
      next h3 => exact runFrom_four (by omega) (by omega) bs

/-- A text is read from its bytes as it was. -/
theorem run_encode (t : Text) : decoder.run (encode t) = t := by
  induction t with
  | nil => rfl
  | cons c t ih =>
    have hc : decoder.run (encode (c :: t)) = c :: decoder.run (encode t) :=
      runFrom_encodeChar c (encode t)
    rw [hc, ih]

/-- A byte of a character is its number, if that is below 80, and else one from 80 to F4. -/
theorem toNat_of_mem_encodeChar {c : Char} {b : UInt8} (hb : b ∈ encodeChar c) :
    b.toNat = c.toNat ∧ c.toNat < 0x80 ∨ 0x80 ≤ b.toNat ∧ b.toNat < 0xF5 := by
  have hvalid : c.toNat < 0xD800 ∨ 0xDFFF < c.toNat ∧ c.toNat < 0x110000 := c.valid
  have hlead {n : Nat} (hn : 0x80 ≤ n ∧ n < 0xF5) :
      0x80 ≤ (UInt8.ofNat n).toNat ∧ (UInt8.ofNat n).toNat < 0xF5 := by
    rwa [toNat_ofNat (by omega)]
  have hcontinuation (n : Nat) : 0x80 ≤ (continuation n).toNat ∧ (continuation n).toNat < 0xF5 := by
    rw [toNat_continuation]
    omega
  unfold encodeChar at hb
  dsimp only at hb
  split at hb
  next h1 =>
    obtain rfl := List.mem_singleton.1 hb
    exact Or.inl ⟨toNat_ofNat (by omega), h1⟩
  next h1 =>
    right
    split at hb
    next h2 =>
      simp only [List.mem_cons, List.not_mem_nil, or_false] at hb
      rcases hb with rfl | rfl
      · exact hlead (by omega)
      · exact hcontinuation _
    next h2 =>
      split at hb
      next h3 =>
        simp only [List.mem_cons, List.not_mem_nil, or_false] at hb
        rcases hb with rfl | rfl | rfl
        · exact hlead (by omega)
        · exact hcontinuation _
        · exact hcontinuation _
      next h3 =>
        simp only [List.mem_cons, List.not_mem_nil, or_false] at hb
        rcases hb with rfl | rfl | rfl | rfl
        · exact hlead (by omega)
        · exact hcontinuation _
        · exact hcontinuation _
        · exact hcontinuation _

end Utf8

namespace Utf16

variable {o : ByteOrder} {u : Nat}

/-! ## The bytes and the units of UTF-16 -/

/-- The charset with this order of bytes. -/
def ByteOrder.charset : ByteOrder → Charset
  | littleEndian => .utf16le
  | bigEndian => .utf16be

theorem ByteOrder.decoder_charset (o : ByteOrder) : o.charset.decoder = decoder o := by
  cases o <;> rfl

theorem isHigh_iff : isHigh u = true ↔ 0xD800 ≤ u ∧ u < 0xDC00 := by simp [isHigh]

theorem isLow_iff : isLow u = true ↔ 0xDC00 ≤ u ∧ u < 0xE000 := by simp [isLow]

theorem exists_bytes (o : ByteOrder) (hu : u < 0x10000) :
    ∃ first second, o.bytes u = [first, second] ∧ o.unit first.toNat second.toNat = u := by
  have hhigh : (UInt8.ofNat (u / 0x100)).toNat = u / 0x100 := Utf8.toNat_ofNat (by omega)
  have hlow : (UInt8.ofNat (u % 0x100)).toNat = u % 0x100 := Utf8.toNat_ofNat (by omega)
  cases o with
  | littleEndian =>
    refine ⟨_, _, rfl, ?_⟩
    rw [hlow, hhigh, ByteOrder.unit]
    omega
  | bigEndian =>
    refine ⟨_, _, rfl, ?_⟩
    rw [hlow, hhigh, ByteOrder.unit]
    omega

/-- The two bytes of a unit are read as the unit, whatever came before it. -/
theorem runFrom_bytes (hu : u < 0x10000) (high? : Option Nat) (bs : Bytes) :
    (decoder o).runFrom ⟨high?, none⟩ (o.bytes u ++ bs) =
      (readUnit high? u).1 ++ (decoder o).runFrom ⟨(readUnit high? u).2, none⟩ bs := by
  obtain ⟨first, second, hbytes, hunit⟩ := exists_bytes o hu
  have hread : (decoder o).runFrom ⟨high?, none⟩ (first :: second :: bs) =
      (readUnit high? (o.unit first.toNat second.toNat)).1 ++
        (decoder o).runFrom ⟨(readUnit high? (o.unit first.toNat second.toNat)).2, none⟩ bs := rfl
  rw [hbytes, List.cons_append, List.cons_append, List.nil_append, hread, hunit]

theorem readUnit_whole (hu : u < 0xD800 ∨ 0xDFFF < u) :
    readUnit none u = ([Char.ofNat u], none) := by
  have hhigh : ¬ isHigh u = true := by rw [isHigh_iff]; omega
  have hlow : ¬ isLow u = true := by rw [isLow_iff]; omega
  rw [readUnit, begin, if_neg hhigh, if_neg hlow]

theorem readUnit_high (hu : 0xD800 ≤ u ∧ u < 0xDC00) : readUnit none u = ([], some u) := by
  rw [readUnit, begin, if_pos (isHigh_iff.2 hu)]

theorem readUnit_low {high : Nat} (hu : 0xDC00 ≤ u ∧ u < 0xE000) :
    readUnit (some high) u =
      ([Char.ofNat (0x10000 + (high - 0xD800) * 0x400 + (u - 0xDC00))], none) := by
  rw [readUnit, if_pos (isLow_iff.2 hu)]

/-- The bytes of a character are read as that character, whatever follows. -/
theorem runFrom_units (c : Char) (bs : Bytes) :
    (decoder o).runFrom ⟨none, none⟩ ((units c).flatMap o.bytes ++ bs) =
      c :: (decoder o).runFrom ⟨none, none⟩ bs := by
  have hvalid : c.toNat < 0xD800 ∨ 0xDFFF < c.toNat ∧ c.toNat < 0x110000 := c.valid
  have hc : Char.ofNat c.toNat = c := Char.ofNat_toNat c
  unfold units
  generalize c.toNat = n at hvalid hc ⊢
  subst hc
  dsimp only
  split
  next h1 =>
    rw [List.flatMap_singleton, runFrom_bytes h1, readUnit_whole (by omega)]
    rfl
  next h1 =>
    -- the two halves of a pair are surrogates, and put together they make the number
    have hn : 0x10000 + (0xD800 + (n - 0x10000) / 0x400 - 0xD800) * 0x400 +
        (0xDC00 + (n - 0x10000) % 0x400 - 0xDC00) = n := by omega
    rw [List.flatMap_cons, List.flatMap_singleton, List.append_assoc, runFrom_bytes (by omega),
      readUnit_high (by omega), List.nil_append, runFrom_bytes (by omega),
      readUnit_low (by omega), hn]
    rfl

theorem encode_cons (o : ByteOrder) (c : Char) (t : Text) :
    encode o (c :: t) = (units c).flatMap o.bytes ++ encode o t := by
  rw [encode, List.flatMap_cons, List.flatMap_append]
  rfl

/-- A text is read from its bytes as it was, in either order. -/
theorem run_encode (o : ByteOrder) (t : Text) : (decoder o).run (encode o t) = t := by
  induction t with
  | nil => rfl
  | cons c t ih =>
    have hc : (decoder o).run (encode o (c :: t)) = c :: (decoder o).run (encode o t) := by
      rw [encode_cons]
      exact runFrom_units c (encode o t)
    rw [hc, ih]

end Utf16

namespace Windows1252

/-! ## Windows-1252 -/

theorem encodeChar?_decodeByte_middle :
    ∀ i < 0x20, encodeChar? (decodeByte (UInt8.ofNat (0x80 + i))) =
      some (UInt8.ofNat (0x80 + i)) := by
  decide

/-- Every byte is the byte of its character. -/
theorem encodeChar?_decodeByte (b : UInt8) : encodeChar? (decodeByte b) = some b := by
  have hb : b.toNat < 0x100 := b.toNat_lt
  by_cases hm : 0x80 ≤ b.toNat ∧ b.toNat < 0xA0
  · have hmiddle := encodeChar?_decodeByte_middle (b.toNat - 0x80) (by omega)
    rwa [Nat.add_sub_cancel' hm.1, UInt8.ofNat_toNat] at hmiddle
  · have hvalid : b.toNat.isValidChar := Or.inl (by omega)
    unfold decodeByte encodeChar?
    dsimp only
    rw [if_neg hm, toNat_charOfNat hvalid, if_pos (by omega), UInt8.ofNat_toNat]

/-- A text whose characters all have bytes is read from its bytes as it was. -/
theorem run_encode {t : Text} (h : ∀ c ∈ t, ∃ b, decodeByte b = c) :
    decoder.run (Charset.encode .windows1252 t) = t := by
  induction t with
  | nil => rfl
  | cons c t ih =>
    obtain ⟨b, rfl⟩ := h c List.mem_cons_self
    have hc : Charset.encode .windows1252 (decodeByte b :: t) =
        b :: Charset.encode .windows1252 t := by
      simp [Charset.encode, Charset.encodeWith, encodeChar?_decodeByte]
    have hrun : decoder.run (b :: Charset.encode .windows1252 t) =
        decodeByte b :: decoder.run (Charset.encode .windows1252 t) := rfl
    rw [hc, hrun, ih fun c hc => h c (List.mem_cons_of_mem _ hc)]

end Windows1252

end IniConfig
