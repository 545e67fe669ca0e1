import IniConfig.Separated
import Mathlib.Data.List.Basic
import Mathlib.Data.List.Infix
import Mathlib.Tactic.MkIffOfInductiveProp

/-!
# Lists that come back from one value

A text is cut at the first occurrence of the separator, and then again behind it
(`Text.pieces_of_isFirstAt`). So an element comes back if the separator that was written behind it
is the first one that is found; an element that ends like the separator begins may move it forward.
What comes back is trimmed, but trimming does not hide a wrong cut: both lists make up the same
text, and trimming would leave it shorter (`Text.map_trim_eq_of_length_le`). This gives the lists of
texts that come back (`Separated.read_write_texts_iff`). Integers have no character of the separator
in them, if it has neither a digit nor a minus sign, and always come back
(`Separated.read_write_integers`).
-/

namespace IniConfig

namespace Text

/-- The first occurrence of a text in another begins behind this many characters. -/
@[mk_iff]
structure IsFirstAt (separator t : Text) (i : Nat) : Prop where
  occurs : separator <+: t.drop i
  first : ∀ j < i, ¬ separator <+: t.drop j

instance (separator t : Text) (i : Nat) : Decidable (IsFirstAt separator t i) :=
  decidable_of_iff' _ (isFirstAt_iff separator t i)

variable {separator t u e : Text} {i : Nat} {es : List Text}

/-! ## The first occurrence -/

theorem IsFirstAt.cons {c : Char} (h : IsFirstAt separator t i) (hc : ¬ separator <+: c :: t) :
    IsFirstAt separator (c :: t) (i + 1) := by
  refine ⟨h.occurs, ?_⟩
  intro j hj
  cases j with
  | zero => exact hc
  | succ j => exact h.first j (Nat.lt_of_succ_lt_succ hj)

theorem exists_isFirstAt (h : separator <:+: t) : ∃ i, IsFirstAt separator t i := by
  induction t with
  | nil => exact ⟨0, List.infix_nil.1 h ▸ List.prefix_rfl, nofun⟩
  | cons c t ih =>
    by_cases hc : separator <+: c :: t
    · exact ⟨0, hc, nofun⟩
    · obtain ⟨i, hi⟩ := ih ((List.infix_cons_iff.1 h).resolve_left hc)
      exact ⟨i + 1, hi.cons hc⟩

theorem IsFirstAt.lt_length (h : IsFirstAt separator t i) (hs : separator ≠ []) : i < t.length := by
  have hlength := h.occurs.length_le
  have hpos := List.length_pos_iff.2 hs
  rw [List.length_drop] at hlength
  omega

/-- What stands behind an occurrence does not change whether it is the first. -/
theorem isFirstAt_append_iff (hi : i + separator.length ≤ t.length) :
    IsFirstAt separator (t ++ u) i ↔ IsFirstAt separator t i := by
  have hstart : ∀ j ≤ i, (separator <+: (t ++ u).drop j ↔ separator <+: t.drop j) := by
    intro j hj
    have hlength : separator.length ≤ (t.drop j).length := by
      rw [List.length_drop]
      omega
    rw [List.drop_append_of_le_length (by omega)]
    constructor
    · intro h
      exact List.prefix_of_prefix_length_le h (List.prefix_append _ _) hlength
    · intro h
      exact h.trans (List.prefix_append _ _)
  constructor
  · intro h
    exact ⟨(hstart i le_rfl).1 h.occurs, fun j hj hc => h.first j hj ((hstart j hj.le).2 hc)⟩
  · intro h
    exact ⟨(hstart i le_rfl).2 h.occurs, fun j hj hc => h.first j hj ((hstart j hj.le).1 hc)⟩

/-- A separator is not found where none of its characters is. -/
theorem isFirstAt_of_free (hs : separator ≠ []) (h : ∀ c ∈ separator, c ∉ t) :
    IsFirstAt separator (t ++ separator) t.length := by
  refine ⟨by simp, ?_⟩
  intro j hj hstart
  obtain ⟨c, cs, rfl⟩ := List.exists_cons_of_ne_nil hs
  rw [List.drop_append_of_le_length hj.le, List.drop_eq_getElem_cons hj] at hstart
  obtain ⟨rfl, -⟩ := List.cons_prefix_cons.1 hstart
  exact h _ List.mem_cons_self (List.getElem_mem hj)

/-! ## Where a text is cut -/

theorem piecesFrom_eq_pieces_drop (separator : Text) (skip : Nat) (t : Text) :
    piecesFrom separator skip t = pieces separator (t.drop skip) := by
  induction t generalizing skip with
  | nil =>
    rw [List.drop_nil]
    cases skip <;> rfl
  | cons c t ih =>
    cases skip with
    | zero => rfl
    | succ skip => exact ih skip

/-- An occurrence at the start leaves an empty piece. -/
theorem pieces_separator_append (hs : separator ≠ []) (t : Text) :
    pieces separator (separator ++ t) = [] :: pieces separator t := by
  obtain ⟨c, cs, rfl⟩ := List.exists_cons_of_ne_nil hs
  have hstart : (c :: cs).isPrefixOf (c :: (cs ++ t)) = true :=
    List.isPrefixOf_iff_prefix.2 ⟨t, rfl⟩
  rw [pieces, List.cons_append, piecesFrom, if_pos hstart, piecesFrom_eq_pieces_drop]
  simp

theorem pieces_cons_of_not_isPrefix {c : Char} (h : ¬ separator <+: c :: t) :
    pieces separator (c :: t) = (pieces separator t).modifyHead (c :: ·) :=
  if_neg (mt List.isPrefixOf_iff_prefix.1 h)

theorem pieces_of_not_isInfix (h : ¬ separator <:+: t) : pieces separator t = [t] := by
  induction t with
  | nil => rfl
  | cons c t ih =>
    rw [List.infix_cons_iff, not_or] at h
    rw [pieces_cons_of_not_isPrefix h.1, ih h.2]
    rfl

/-- **A text is cut at the first occurrence of the separator**, and what is behind it is cut
again. -/
theorem pieces_of_isFirstAt (hs : separator ≠ []) (h : IsFirstAt separator t i) :
    pieces separator t = t.take i :: pieces separator (t.drop (i + separator.length)) := by
  induction i generalizing t with
  | zero =>
    obtain ⟨u, hu⟩ := h.occurs
    obtain rfl : separator ++ u = t := hu
    rw [pieces_separator_append hs]
    simp
  | succ i ih =>
    cases t with
    | nil => exact absurd (List.prefix_nil.1 h.occurs) hs
    | cons c t =>
      have hc : ¬ separator <+: c :: t := h.first 0 (Nat.succ_pos i)
      have hrest : IsFirstAt separator t i :=
        ⟨h.occurs, fun j hj => h.first (j + 1) (Nat.succ_lt_succ hj)⟩
      rw [pieces_cons_of_not_isPrefix hc, ih hrest, Nat.succ_add]
      rfl

theorem pieces_eq_singleton_iff (hs : separator ≠ []) :
    pieces separator t = [t] ↔ ¬ separator <:+: t := by
  refine ⟨?_, pieces_of_not_isInfix⟩
  intro h hoccurs
  obtain ⟨i, hi⟩ := exists_isFirstAt hoccurs
  rw [pieces_of_isFirstAt hs hi] at h
  exact piecesFrom_ne_nil separator 0 _ (List.cons.inj h).2

/-- A text is the first piece exactly if the separator behind it is the first one. -/
theorem pieces_append_eq_cons_iff (hs : separator ≠ []) :
    pieces separator (e ++ separator ++ t) = e :: es ↔
      IsFirstAt separator (e ++ separator) e.length ∧ pieces separator t = es := by
  have hend : IsFirstAt separator (e ++ separator ++ t) e.length ↔
      IsFirstAt separator (e ++ separator) e.length := isFirstAt_append_iff (by simp)
  constructor
  · intro h
    have hoccurs : separator <:+: e ++ separator ++ t := ⟨e, t, rfl⟩
    obtain ⟨i, hi⟩ := exists_isFirstAt hoccurs
    rw [pieces_of_isFirstAt hs hi] at h
    obtain ⟨hhead, htail⟩ := List.cons.inj h
    obtain rfl : i = e.length := by
      rw [← hhead, List.length_take, Nat.min_eq_left (hi.lt_length hs).le]
    refine ⟨hend.1 hi, ?_⟩
    rw [← htail]
    simp
  · rintro ⟨hfirst, rfl⟩
    rw [pieces_of_isFirstAt hs (hend.2 hfirst)]
    simp

/-! ## Elements that make up a text -/

/-- The pieces are the elements exactly if each element but the last ends where the first separator
is, and the last has none. -/
theorem pieces_intercalate_iff (hs : separator ≠ []) : ∀ es : List Text, es ≠ [] →
    (pieces separator (separator.intercalate es) = es ↔
      (∀ e ∈ es.dropLast, IsFirstAt separator (e ++ separator) e.length) ∧
        ∀ e ∈ es.getLast?, ¬ separator <:+: e)
  | [], h => absurd rfl h
  | [e], _ => by simp [pieces_eq_singleton_iff hs]
  | e :: e' :: es, _ => by
    have hrest := pieces_intercalate_iff hs (e' :: es) (List.cons_ne_nil e' es)
    rw [List.intercalate_cons_cons, pieces_append_eq_cons_iff hs, hrest]
    simp [and_assoc]

theorem length_intercalate_map_trim_le (separator : Text) : ∀ es : List Text,
    (separator.intercalate (es.map trim)).length ≤ (separator.intercalate es).length
  | [] => Nat.le_refl _
  | [e] => by simpa using length_trim_le e
  | e :: e' :: es => by
    have htrim := length_trim_le e
    have hrest := length_intercalate_map_trim_le separator (e' :: es)
    simp only [List.map_cons, List.intercalate_cons_cons, List.length_append] at hrest ⊢
    omega

/-- Trimmed elements make up a shorter text, unless trimming leaves them as they are. -/
theorem map_trim_eq_of_length_le (separator : Text) : ∀ es : List Text,
    (separator.intercalate es).length ≤ (separator.intercalate (es.map trim)).length →
    es.map trim = es
  | [], _ => rfl
  | [e], h => by
    have htrim : trim e = e := (trim_isInfix e).eq_of_length_le (by simpa using h)
    rw [List.map_singleton, htrim]
  | e :: e' :: es, h => by
    have hlength := length_trim_le e
    have hrest := length_intercalate_map_trim_le separator (e' :: es)
    simp only [List.map_cons, List.intercalate_cons_cons, List.length_append] at h hrest
    have htrim : trim e = e := (trim_isInfix e).eq_of_length_le (by omega)
    have htail : (e' :: es).map trim = e' :: es :=
      map_trim_eq_of_length_le separator (e' :: es) (by rw [List.map_cons]; omega)
    rw [List.map_cons, htrim, htail]

end Text

namespace Separated

open Text

variable {separator : Text} {xs : List Text}

/-! ## Lists of texts -/

/-- The separator keeps the elements apart: they are trimmed, the separator behind each of them but
the last is the first one that is found, and the last has no separator in it. One empty element is
nothing that could be seen. -/
@[mk_iff]
structure IsSeparable (separator : Text) (xs : List Text) : Prop where
  ne_blank : xs ≠ [[]]
  trimmed : ∀ x ∈ xs, x.trim = x
  first : ∀ x ∈ xs.dropLast, IsFirstAt separator (x ++ separator) x.length
  last : ∀ x ∈ xs.getLast?, ¬ separator <:+: x

instance (separator : Text) (xs : List Text) : Decidable (IsSeparable separator xs) :=
  decidable_of_iff' _ (isSeparable_iff separator xs)

theorem flatMap_append_separator (separator : Text) : ∀ xs : List Text, xs ≠ [] →
    xs.flatMap (· ++ separator) = separator.intercalate xs ++ separator
  | [], h => absurd rfl h
  | [x], _ => by simp
  | x :: x' :: xs, _ => by
    have hrest := flatMap_append_separator separator (x' :: xs) (List.cons_ne_nil x' xs)
    rw [List.flatMap_cons, hrest, List.intercalate_cons_cons, List.append_assoc, List.append_assoc,
      List.append_assoc]

theorem dropTrailing_append (hs : separator ≠ []) (t : Text) :
    dropTrailing separator (t ++ separator) = t := by
  have hend : separator.isSuffixOf (t ++ separator) = true :=
    List.isSuffixOf_iff_suffix.2 (List.suffix_append t separator)
  rw [dropTrailing, if_pos ⟨hs, hend⟩]
  simp

/-- The separator stands between the elements. -/
theorem join_eq_intercalate (hs : separator ≠ []) (xs : List Text) :
    join separator xs = separator.intercalate xs := by
  by_cases hxs : xs = []
  · subst hxs
    simp [join, dropTrailing]
  · rw [join, flatMap_append_separator separator xs hxs, dropTrailing_append hs]

theorem split_join_nil (separator : Text) : split separator (join separator []) = [] := by
  simp [split, join, dropTrailing]

theorem intercalate_eq_nil_iff (hs : separator ≠ []) : ∀ xs : List Text, xs ≠ [] →
    (separator.intercalate xs = [] ↔ xs = [[]])
  | [], h => absurd rfl h
  | [x], _ => by simp
  | x :: x' :: xs, _ => by simp [List.intercalate_cons_cons, hs]

theorem split_join (hs : separator ≠ []) (hxs : xs ≠ []) :
    split separator (join separator xs) =
      if xs = [[]] then [] else pieces separator (separator.intercalate xs) := by
  rw [split, join_eq_intercalate hs, if_neg hs]
  exact if_congr (intercalate_eq_nil_iff hs xs hxs) rfl rfl

/-- Trimming does not hide a wrong cut. -/
theorem map_trim_pieces_iff (hs : separator ≠ []) :
    (pieces separator (separator.intercalate xs)).map trim = xs ↔
      (∀ x ∈ xs, x.trim = x) ∧ pieces separator (separator.intercalate xs) = xs := by
  constructor
  · intro h
    have hback := intercalate_pieces hs (separator.intercalate xs)
    have hsame : (pieces separator (separator.intercalate xs)).map trim =
        pieces separator (separator.intercalate xs) :=
      map_trim_eq_of_length_le separator _ (by rw [h, hback])
    refine ⟨?_, hsame.symm.trans h⟩
    intro x hx
    rw [← h] at hx
    obtain ⟨piece, -, rfl⟩ := List.mem_map.1 hx
    exact trim_trim piece
  · rintro ⟨htrim, hpieces⟩
    rw [hpieces]
    exact (List.map_congr_left htrim).trans (List.map_id xs)

/-- Elements come back as trimmed pieces exactly if there are none or the separator keeps them
apart. -/
theorem map_trim_split_join_iff (hs : separator ≠ []) :
    (split separator (join separator xs)).map trim = xs ↔ xs = [] ∨ IsSeparable separator xs := by
  by_cases hxs : xs = []
  · subst hxs
    simp [split_join_nil]
  · rw [split_join hs hxs]
    split
    next hblank =>
      constructor
      · intro h
        exact Or.inl h.symm
      · intro h
        exact absurd hblank (h.resolve_left hxs).ne_blank
    next hblank =>
      rw [map_trim_pieces_iff hs, pieces_intercalate_iff hs xs hxs]
      constructor
      · rintro ⟨htrim, hfirst, hlast⟩
        exact Or.inr ⟨hblank, htrim, hfirst, hlast⟩
      · intro h
        obtain ⟨-, htrim, hfirst, hlast⟩ := h.resolve_left hxs
        exact ⟨htrim, hfirst, hlast⟩

theorem read_text (separator t : Text) :
    read .text separator t = ((split separator t).map trim).map .text := by
  rw [read, List.map_map]
  rfl

theorem map_text_inj {xs ys : List Text} : xs.map Scalar.text = ys.map .text ↔ xs = ys :=
  List.map_inj_right fun _ _ => Scalar.text.inj

theorem write_texts (separator : Text) (xs : List Text) :
    write separator (xs.map .text) = join separator xs := by
  have hsame : (xs.map Scalar.text).map Scalar.write = xs := by
    rw [List.map_map]
    exact List.map_id xs
  rw [write, hsame]

/-- **Texts come back exactly if there are none or the separator keeps them apart.** -/
theorem read_write_texts_iff (hs : separator ≠ []) (xs : List Text) :
    read .text separator (write separator (xs.map .text)) = xs.map .text ↔
      xs = [] ∨ IsSeparable separator xs := by
  rw [write_texts, read_text, map_text_inj, map_trim_split_join_iff hs]

/-! ## Lists of integers -/

theorem firstOf_eq (k : Kind) (size : Nat) (values : List Scalar) :
    firstOf k size values =
      values.take size ++ List.replicate (size - values.length) k.default := by
  rw [firstOf, List.take_append, List.take_replicate, Nat.min_eq_left (Nat.sub_le _ _)]

/-- Elements without a character of the separator in them are the pieces. -/
theorem split_join_of_free (hs : separator ≠ []) (hfree : ∀ x ∈ xs, ∀ c ∈ separator, c ∉ x)
    (hfull : ∀ x ∈ xs, x ≠ []) : split separator (join separator xs) = xs := by
  by_cases hxs : xs = []
  · subst hxs
    exact split_join_nil separator
  · have hblank : xs ≠ [[]] := by
      rintro rfl
      exact hfull [] List.mem_cons_self rfl
    rw [split_join hs hxs, if_neg hblank, pieces_intercalate_iff hs xs hxs]
    constructor
    · intro x hx
      exact isFirstAt_of_free hs (hfree x (List.mem_of_mem_dropLast hx))
    · intro x hx hoccurs
      obtain ⟨c, cs, rfl⟩ := List.exists_cons_of_ne_nil hs
      have hmem : c ∈ x := hoccurs.subset List.mem_cons_self
      exact hfree x (List.mem_of_getLast? hx) c List.mem_cons_self hmem

theorem not_mem_write (hfree : ∀ c ∈ separator, c.isDigit = false ∧ c ≠ '-') (n : Int) :
    ∀ c ∈ separator, c ∉ IntegerType.write n := by
  intro c hc hmem
  obtain ⟨hdigit, hminus⟩ := hfree c hc
  rcases IntegerType.isDigit_or_eq_of_mem_write hmem with h | h
  · rw [hdigit] at h
    cases h
  · exact hminus h

theorem trim_write (n : Int) : trim (IntegerType.write n) = IntegerType.write n := by
  apply trim_of_not_blank
  intro c hc
  rcases IntegerType.isDigit_or_eq_of_mem_write hc with h | rfl
  · exact isBlank_of_isDigit h
  · decide

/-- An integer is read as itself by the types that hold it, and as zero by all others. -/
theorem kind_read_write (τ : IntegerType) (n : Int) :
    (Kind.integer τ).read (IntegerType.write n) = .integer (if τ.holds n then n else 0) := by
  rw [Kind.read, trim_write, Kind.read?]
  cases h : τ.holds n with
  | true => rw [IntegerType.read?_write h]; rfl
  | false => rw [IntegerType.read?_write_of_not_holds h]; rfl

/-- **Integers come back from any separator that cannot be a part of one**, each as the type that
they are read as holds it. -/
theorem read_write_integers (hs : separator ≠ [])
    (hfree : ∀ c ∈ separator, c.isDigit = false ∧ c ≠ '-') (τ : IntegerType) (ns : List Int) :
    read (.integer τ) separator (write separator (ns.map .integer)) =
      ns.map fun n => .integer (if τ.holds n then n else 0) := by
  have hwritten : (ns.map Scalar.integer).map Scalar.write = ns.map IntegerType.write := by
    rw [List.map_map]
    rfl
  have hsplit : split separator (join separator (ns.map IntegerType.write)) =
      ns.map IntegerType.write := by
    apply split_join_of_free hs
    · intro x hx
      obtain ⟨n, -, rfl⟩ := List.mem_map.1 hx
      exact not_mem_write hfree n
    · intro x hx
      obtain ⟨n, -, rfl⟩ := List.mem_map.1 hx
      exact IntegerType.write_ne_nil n
  rw [read, write, hwritten, hsplit, List.map_map]
  exact List.map_congr_left fun n _ => kind_read_write τ n

end Separated

end IniConfig
