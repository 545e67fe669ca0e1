import IniConfig.Line
import Mathlib.Data.List.TakeWhile

/-!
# The forms of lines

`classify` tries three recognisers that take what they can and give nothing back. Each of them
accepts a whole text exactly if the text has the recogniser's form (`whole_comment`,
`whole_keyAndValue_iff`, `whole_bracketedName_iff`), so what a line says can be told from the text
without them: `HasForm` lists the four forms, and `classify_eq_iff` says that `classify` finds the
one that the text has.
-/

namespace IniConfig.Line

/-- The text is a comment. -/
def IsComment (t : Text) : Prop := t.head? = some ';' ∨ t.head? = some '#'

instance (t : Text) : Decidable (IsComment t) := inferInstanceAs (Decidable (_ ∨ _))

/-- The text stands in brackets. -/
def IsBracketed (t : Text) : Prop := ∃ name, t = '[' :: name ++ [']']

theorem isBracketed_iff {t : Text} :
    IsBracketed t ↔ t.head? = some '[' ∧ t.tail.getLast? = some ']' := by
  cases t with
  | nil => simp [IsBracketed]
  | cons c r =>
    rw [List.head?_cons, List.tail_cons, List.getLast?_eq_some_iff]
    constructor
    · rintro ⟨name, h⟩
      obtain ⟨rfl, rfl⟩ := List.cons.inj h
      exact ⟨rfl, name, rfl⟩
    · rintro ⟨h, name, rfl⟩
      exact ⟨name, by rw [Option.some.inj h]; rfl⟩

instance (t : Text) : Decidable (IsBracketed t) := decidable_of_iff _ isBracketed_iff.symm

/-! ## What each recogniser accepts -/

theorem whole_comment (t : Text) :
    comment.whole t = if IsComment t then some skipped else none := by
  cases t with
  | nil => rfl
  | cons c r =>
    by_cases h : c = ';' ∨ c = '#'
    · simp [Recogniser.whole, comment, IsComment, h]
    · simp [Recogniser.whole, comment, IsComment, h]

theorem isKeyChar_iff {c : Char} : isKeyChar c ↔ c ≠ '=' ∧ c ≠ '\n' := by simp [isKeyChar]

theorem isValueChar_iff {c : Char} : isValueChar c ↔ c ≠ '\n' := by simp [isValueChar]

/-- A text without line feeds is all value. -/
theorem takeWhile_isValueChar {v : Text} (h : '\n' ∉ v) : v.takeWhile isValueChar = v :=
  List.takeWhile_eq_self_iff.2 fun _ hc => isValueChar_iff.2 fun e => h (e ▸ hc)

theorem dropWhile_isValueChar_eq_nil_iff {v : Text} :
    v.dropWhile isValueChar = [] ↔ '\n' ∉ v := by
  rw [List.dropWhile_eq_nil_iff]
  constructor
  · intro h hv
    exact isValueChar_iff.1 (h _ hv) rfl
  · intro h c hc
    exact isValueChar_iff.2 fun e => h (e ▸ hc)

theorem whole_keyAndValue_iff {t : Text} {l : Line} :
    keyAndValue.whole t = some l ↔
      ∃ k v, t = k ++ '=' :: v ∧ '=' ∉ k ∧ '\n' ∉ k ∧ '\n' ∉ v ∧
        l = entry (Text.trim k) (Text.trim v) := by
  constructor
  · intro h
    unfold Recogniser.whole keyAndValue at h
    split at h
    next line hrest =>
      split at hrest
      next v hdrop =>
        have hkey : ∀ c ∈ t.takeWhile isKeyChar, c ≠ '=' ∧ c ≠ '\n' :=
          fun c hc => isKeyChar_iff.1 (List.all_eq_true.1 List.all_takeWhile c hc)
        obtain ⟨hline, hv⟩ := Prod.mk.inj (Option.some.inj hrest)
        have hn : '\n' ∉ v := dropWhile_isValueChar_eq_nil_iff.1 hv
        refine ⟨t.takeWhile isKeyChar, v, ?_, fun hc => (hkey _ hc).1 rfl,
          fun hc => (hkey _ hc).2 rfl, hn, ?_⟩
        · rw [← hdrop, List.takeWhile_append_dropWhile]
        · rw [← Option.some.inj h, ← hline, takeWhile_isValueChar hn]
      next => cases hrest
    next => cases h
  · rintro ⟨k, v, rfl, hk, hkn, hv, rfl⟩
    have hkey : ∀ c ∈ k, isKeyChar c := fun c hc =>
      isKeyChar_iff.2 ⟨fun e => hk (e ▸ hc), fun e => hkn (e ▸ hc)⟩
    have htake : (k ++ '=' :: v).takeWhile isKeyChar = k := by
      rw [List.takeWhile_append_of_pos hkey, List.takeWhile_cons_of_neg (by decide),
        List.append_nil]
    have hdrop : (k ++ '=' :: v).dropWhile isKeyChar = '=' :: v := by
      rw [List.dropWhile_append_of_pos hkey, List.dropWhile_cons_of_neg (by decide)]
    simp only [Recogniser.whole, keyAndValue, hdrop, htake, takeWhile_isValueChar hv,
      dropWhile_isValueChar_eq_nil_iff.2 hv]

theorem whole_keyAndValue_eq_none_iff {t : Text} :
    keyAndValue.whole t = none ↔ '\n' ∈ t ∨ '=' ∉ t := by
  constructor
  · intro h
    by_cases he : '=' ∈ t
    · obtain ⟨k, v, rfl, hk⟩ := List.eq_append_cons_of_mem he
      refine Or.inl (Classical.byContradiction fun hn => ?_)
      simp only [List.mem_append, List.mem_cons, not_or] at hn
      rw [whole_keyAndValue_iff.2 ⟨k, v, rfl, hk, hn.1, hn.2.2, rfl⟩] at h
      cases h
    · exact Or.inr he
  · intro h
    cases hk : keyAndValue.whole t with
    | none => rfl
    | some l =>
      obtain ⟨k, v, rfl, -, hkn, hvn, -⟩ := whole_keyAndValue_iff.1 hk
      simp [hkn, hvn] at h

theorem newline_not_mem_sectionName (t : Text) : '\n' ∉ (sectionName t).1 := by
  fun_induction sectionName t with
  | case1 => exact List.not_mem_nil
  | case2 => exact List.not_mem_nil
  | case3 c r h ih =>
    intro hmem
    rcases List.mem_cons.1 hmem with e | hr
    · exact h (Or.inr e.symm)
    · exact ih hr

/-- The bracket that ends the text ends the name. -/
theorem sectionName_append_bracket {name : Text} (h : '\n' ∉ name) :
    sectionName (name ++ [']']) = (name, [']']) := by
  induction name with
  | nil => rfl
  | cons c r ih =>
    have hc : c ≠ '\n' := fun e => h (e ▸ List.mem_cons_self)
    have hr : '\n' ∉ r := fun hm => h (List.mem_cons_of_mem _ hm)
    rw [List.cons_append, sectionName, if_neg (by simp [hc]), ih hr]
    rfl

theorem whole_bracketedName_iff {t : Text} {l : Line} :
    bracketedName.whole t = some l ↔
      ∃ name, t = '[' :: name ++ [']'] ∧ '\n' ∉ name ∧ l = header name := by
  constructor
  · intro h
    unfold Recogniser.whole bracketedName at h
    split at h
    next line hrest =>
      split at hrest
      next r =>
        split at hrest
        next name rest hname =>
          obtain ⟨hline, rfl⟩ := Prod.mk.inj (Option.some.inj hrest)
          have hr := sectionName_append r
          have hn := newline_not_mem_sectionName r
          rw [hname] at hr hn
          exact ⟨name, by rw [← hr]; rfl, hn, by rw [← Option.some.inj h, ← hline]⟩
        next => cases hrest
      next => cases hrest
    next => cases h
  · rintro ⟨name, rfl, hn, rfl⟩
    simp only [List.cons_append, Recogniser.whole, bracketedName, sectionName_append_bracket hn]

theorem whole_bracketedName_eq_none_iff {t : Text} :
    bracketedName.whole t = none ↔ '\n' ∈ t ∨ ¬ IsBracketed t := by
  constructor
  · intro h
    by_cases hb : IsBracketed t
    · obtain ⟨name, rfl⟩ := hb
      refine Or.inl (Classical.byContradiction fun hn => ?_)
      have hname : '\n' ∉ name := fun hm => hn (by simp [hm])
      rw [whole_bracketedName_iff.2 ⟨name, rfl, hname, rfl⟩] at h
      cases h
    · exact Or.inr hb
  · intro h
    cases hb : bracketedName.whole t with
    | none => rfl
    | some l =>
      obtain ⟨name, rfl, hname, -⟩ := whole_bracketedName_iff.1 hb
      rcases h with h | h
      · simp [hname] at h
      · exact absurd ⟨name, rfl⟩ h

/-! ## The forms -/

/-- The text is read at all, as something else than a comment. -/
structure IsRead (t : Text) : Prop where
  ne_nil : t ≠ []
  length_le : t.length ≤ maxLength
  not_comment : ¬ IsComment t

/-- The text has the form of a line that says this. -/
inductive HasForm (t : Text) : Line → Prop
  | skipped (h : ¬ IsRead t) : HasForm t .skipped
  | entry {k v : Text} (hr : IsRead t) (hn : '\n' ∉ t) (ht : t = k ++ '=' :: v) (hk : '=' ∉ k) :
      HasForm t (.entry (Text.trim k) (Text.trim v))
  | header {name : Text} (hr : IsRead t) (hn : '\n' ∉ t) (he : '=' ∉ t)
      (ht : t = '[' :: name ++ [']']) : HasForm t (.header name)
  | bare (hr : IsRead t) (h : '\n' ∈ t ∨ '=' ∉ t ∧ ¬ IsBracketed t) : HasForm t (.bare t)

theorem not_isRead_iff {t : Text} :
    ¬ IsRead t ↔ t = [] ∨ maxLength < t.length ∨ IsComment t := by
  constructor
  · intro h
    by_cases h1 : t = []
    · exact Or.inl h1
    · by_cases h2 : maxLength < t.length
      · exact Or.inr (Or.inl h2)
      · by_cases h3 : IsComment t
        · exact Or.inr (Or.inr h3)
        · exact absurd ⟨h1, Nat.le_of_not_lt h2, h3⟩ h
  · rintro (h | h | h) hr
    · exact hr.ne_nil h
    · exact Nat.not_lt.2 hr.length_le h
    · exact hr.not_comment h

theorem classify_of_not_isRead {t : Text} (h : ¬ IsRead t) : classify t = skipped := by
  unfold classify
  split
  · rfl
  next hs =>
    rcases not_isRead_iff.1 h with h | h | h
    · exact absurd (Or.inl h) hs
    · exact absurd (Or.inr h) hs
    · simp [whole_comment, h]

/-- On a text that is read, the recogniser of entries comes first and that of headers second. -/
theorem classify_of_isRead {t : Text} (h : IsRead t) :
    classify t =
      ((keyAndValue.whole t).or (bracketedName.whole t)).getD (bare t) := by
  have hs : ¬ (t = [] ∨ maxLength < t.length) :=
    fun hs => not_isRead_iff.2 (hs.imp_right Or.inl) h
  rw [classify, if_neg hs]
  cases hk : keyAndValue.whole t <;> cases hb : bracketedName.whole t <;>
    simp [whole_comment, h.not_comment, hk, hb]

theorem hasForm_classify (t : Text) : HasForm t (classify t) := by
  by_cases hr : IsRead t
  · rw [classify_of_isRead hr]
    cases hk : keyAndValue.whole t with
    | some l =>
      obtain ⟨k, v, ht, he, hkn, hvn, rfl⟩ := whole_keyAndValue_iff.1 hk
      have hn : '\n' ∉ t := by rw [ht]; simp [hkn, hvn]
      exact .entry hr hn ht he
    | none =>
      have hne := whole_keyAndValue_eq_none_iff.1 hk
      cases hb : bracketedName.whole t with
      | some l =>
        obtain ⟨name, ht, hname, rfl⟩ := whole_bracketedName_iff.1 hb
        have hn : '\n' ∉ t := by rw [ht]; simp [hname]
        exact .header hr hn (hne.resolve_left hn) ht
      | none =>
        have hnb := whole_bracketedName_eq_none_iff.1 hb
        by_cases hn : '\n' ∈ t
        · exact .bare hr (Or.inl hn)
        · exact .bare hr (Or.inr ⟨hne.resolve_left hn, hnb.resolve_left hn⟩)
  · rw [classify_of_not_isRead hr]
    exact .skipped hr

theorem HasForm.classify_eq {t : Text} {l : Line} (h : HasForm t l) : classify t = l := by
  cases h with
  | skipped h => exact classify_of_not_isRead h
  | @entry k v hr hn ht hk =>
    have hkv : '\n' ∉ k ∧ '\n' ∉ v := by simpa [ht] using hn
    rw [classify_of_isRead hr,
      whole_keyAndValue_iff.2 ⟨k, v, ht, hk, hkv.1, hkv.2, rfl⟩]
    rfl
  | @header name hr hn he ht =>
    have hname : '\n' ∉ name := fun h => hn (by rw [ht]; simp [h])
    rw [classify_of_isRead hr, whole_keyAndValue_eq_none_iff.2 (Or.inr he),
      whole_bracketedName_iff.2 ⟨name, ht, hname, rfl⟩]
    rfl
  | bare hr h =>
    rw [classify_of_isRead hr, whole_keyAndValue_eq_none_iff.2 (h.imp_right And.left),
      whole_bracketedName_eq_none_iff.2 (h.imp_right And.right)]
    rfl

theorem classify_eq_iff {t : Text} {l : Line} : classify t = l ↔ HasForm t l :=
  ⟨fun h => h ▸ hasForm_classify t, HasForm.classify_eq⟩

end IniConfig.Line
