import IniConfig.Grammar
import IniConfig.Proofs.LineForms

/-!
# The grammar accepts the forms of lines

The grammar of a line and the recognisers read the same (`Grammar.classify_eq`), so a line says by
the grammar what its form says (`Grammar.classify_iff_hasForm`).

Two kinds of repetition have to be followed through a text. One over a kind of character reads the
longest beginning of that kind (`Peg.read_many_one`). The one in a section name looks ahead for the
bracket that ends the text (`Grammar.read_sectionName`). Apart from these, each rule is taken
expression by expression to its recogniser (`Grammar.Agrees`).
-/

namespace IniConfig

namespace Peg

variable {e f : Peg} {p q : Char → Bool} {t u r : Text} {ns : List Node}

/-! ## What each expression reads -/

theorem read_char (c : Char) : (char c).read = one (· = c) := rfl

theorem read_any : any.read = one fun _ => true := rfl

theorem read_endOfInput (t : Text) :
    endOfInput.read t = if t = [] then some ([⟨.endOfInput, [], []⟩], []) else none := rfl

theorem read_seq (e f : Peg) (t : Text) :
    (seq e f).read t =
      (do
        let (ns, r) ← e.read t
        let (ns', r') ← f.read r
        some (ns ++ ns', r')) := rfl

theorem read_choice (e f : Peg) (t : Text) : (choice e f).read t = (e.read t).or (f.read t) := rfl

theorem read_many (e : Peg) (t : Text) : (many e).read t = some (again e.read t) := rfl

theorem read_not (e : Peg) (t : Text) :
    (Peg.not e).read t = if (e.read t).isSome then none else some ([], t) := rfl

theorem read_rule (part : Part) (e : Peg) (t : Text) :
    (rule part e).read t =
      (e.read t).map fun (ns, r) => ([⟨part, t.take (t.length - r.length), ns⟩], r) := rfl

/-! ## Expressions that read one character -/

theorem read_choice_one (he : e.read = one p) (hf : f.read = one q) :
    (choice e f).read = one fun c => p c || q c := by
  funext t
  rw [read_choice, he, hf]
  cases t with
  | nil => rfl
  | cons c r => cases hp : p c <;> simp [one, hp]

/-- A kind of character that is excluded ahead of another. -/
theorem read_not_seq_one (he : e.read = one p) (hf : f.read = one q) :
    (seq (.not e) f).read = one fun c => !p c && q c := by
  funext t
  simp only [read_seq, read_not, he, hf]
  cases t with
  | nil => rfl
  | cons c r => cases hp : p c <;> cases hq : q c <;> simp [one, hp, hq]

/-- Over and over one character of a kind: the longest beginning of that kind. -/
theorem again_one (p : Char → Bool) (t : Text) : again (one p) t = ([], t.dropWhile p) := by
  induction t with
  | nil => rw [again]; rfl
  | cons c r ih =>
    rw [again]
    cases hp : p c <;> simp [one, hp, ih]

theorem read_many_one (he : e.read = one p) (t : Text) :
    (many e).read t = some ([], t.dropWhile p) := by
  rw [read_many, he, again_one]

/-! ## Sequences and parts -/

theorem read_seq_of_none (h : e.read t = none) (f : Peg) : (seq e f).read t = none := by
  rw [read_seq, h]
  rfl

theorem read_seq_of_some (h : e.read t = some (ns, r)) (f : Peg) :
    (seq e f).read t = (f.read r).map fun (ns', r') => (ns ++ ns', r') := by
  cases hf : f.read r <;> simp [read_seq, h, hf]

theorem read_rule_of_none (h : e.read t = none) (part : Part) : (rule part e).read t = none := by
  rw [read_rule, h, Option.map_none]

/-- The text of a part is what was read. -/
theorem read_rule_of_some (h : e.read t = some (ns, r)) (ht : t = u ++ r) (part : Part) :
    (rule part e).read t = some ([⟨part, u, ns⟩], r) := by
  have hu : t.take (t.length - r.length) = u := by
    rw [ht, List.length_append, Nat.add_sub_cancel, List.take_left]
  simp only [read_rule, h, Option.map_some, hu]

theorem read_rule_many_one (he : e.read = one p) (part : Part) (t : Text) :
    (rule part (many e)).read t = some ([⟨part, t.takeWhile p, []⟩], t.dropWhile p) :=
  read_rule_of_some (read_many_one he t) List.takeWhile_append_dropWhile.symm part

end Peg

namespace Grammar

open Peg

variable {e : Peg} {recognise : Line.Recogniser} {t : Text}

theorem read_key (t : Text) :
    key.read t =
      some ([⟨.key, t.takeWhile Line.isKeyChar, []⟩], t.dropWhile Line.isKeyChar) := by
  have hone : (seq (.not (choice (char '=') (char '\n'))) any).read = one Line.isKeyChar := by
    rw [read_not_seq_one (read_choice_one (read_char '=') (read_char '\n')) read_any]
    congr 1
    funext c
    simp [Line.isKeyChar]
  exact read_rule_many_one hone .key t

theorem read_value (t : Text) :
    value.read t =
      some ([⟨.value, t.takeWhile Line.isValueChar, []⟩], t.dropWhile Line.isValueChar) := by
  have hone : (seq (.not (char '\n')) any).read = one Line.isValueChar := by
    rw [read_not_seq_one (read_char '\n') read_any]
    congr 1
    funext c
    simp [Line.isValueChar]
  exact read_rule_many_one hone .value t

/-- One step of a section name: a character that is neither a line feed nor a bracket at the end. -/
theorem read_sectionName_step (t : Text) :
    (seq (seq (.not (seq (char ']') endOfInput)) (.not (char '\n'))) any).read t =
      match t with
      | [] => none
      | c :: r => if c = ']' ∧ r = [] ∨ c = '\n' then none else some ([], r) := by
  cases t with
  | nil => rfl
  | cons c r =>
    by_cases hb : c = ']'
    · cases r <;>
        simp [read_seq, read_not, read_char, read_any, read_endOfInput, one, hb]
    · by_cases hn : c = '\n' <;> simp [read_seq, read_not, read_char, read_any, one, hb, hn]

theorem read_sectionName (t : Text) :
    sectionName.read t =
      some ([⟨.sectionName, (Line.sectionName t).1, []⟩], (Line.sectionName t).2) := by
  refine read_rule_of_some ?_ (Line.sectionName_append t).symm .sectionName
  rw [read_many]
  congr 1
  -- one step of the repetition for each character of the name
  fun_induction Line.sectionName t with
  | case1 => simp only [again, read_sectionName_step]
  | case2 c r h => simp only [again, read_sectionName_step, if_pos h]
  | case3 c r h ih =>
    rw [again, read_sectionName_step]
    simp only [if_neg h, List.length_cons, Nat.lt_succ_self, if_true, ih]
    rfl

/-! ## Rules and recognisers -/

/-- What the whole text says by an expression. -/
def whole (e : Peg) (t : Text) : Option Line :=
  ((seq e endOfInput).read t).map fun (ns, _) => meaning t ns

/-- On this text, the rule leaves one part, and the recogniser says what the part does. -/
inductive Agrees (t : Text) (e : Peg) (recognise : Line.Recogniser) : Prop
  | fails (he : e.read t = none) (hr : recognise t = none)
  | reads {n : Node} {r : Text} (he : e.read t = some ([n], r))
      (hr : recognise t = some (meaning t [n], r))

theorem agrees_comment (t : Text) : Agrees t comment Line.comment := by
  have hone := read_choice_one (read_char ';') (read_char '#')
  cases t with
  | nil => exact .fails rfl rfl
  | cons c r =>
    by_cases hc : c = ';' ∨ c = '#'
    · have hsign : (choice (char ';') (char '#')).read (c :: r) = some ([], r) := by
        rw [hone]
        simp [one, hc]
      have hread :
          (seq (choice (char ';') (char '#')) (many any)).read (c :: r) = some ([], []) := by
        rw [read_seq_of_some hsign, read_many_one read_any]
        simp
      exact .reads (read_rule_of_some hread (List.append_nil _).symm .comment)
        (by rw [Line.comment, if_pos hc]; rfl)
    · have hsign : (choice (char ';') (char '#')).read (c :: r) = none := by
        rw [hone]
        simpa [one] using hc
      exact .fails (read_rule_of_none (read_seq_of_none hsign _) .comment)
        (by rw [Line.comment, if_neg hc])

theorem agrees_item (t : Text) : Agrees t item Line.keyAndValue := by
  have hkey := read_seq_of_some (read_key t) (char '=')
  cases hd : t.dropWhile Line.isKeyChar with
  | nil =>
    rw [hd] at hkey
    exact .fails (read_rule_of_none (read_seq_of_none hkey _) .item) (by rw [Line.keyAndValue, hd])
  | cons c r =>
    rw [hd, read_char] at hkey
    by_cases hc : c = '='
    · subst hc
      have ht : t = (t.takeWhile Line.isKeyChar ++ '=' :: r.takeWhile Line.isValueChar) ++
          r.dropWhile Line.isValueChar := by
        rw [List.append_assoc, List.cons_append, List.takeWhile_append_dropWhile, ← hd,
          List.takeWhile_append_dropWhile]
      have hread := read_seq_of_some hkey value
      rw [read_value] at hread
      exact .reads (read_rule_of_some hread ht .item) (by rw [Line.keyAndValue, hd]; rfl)
    · have hkey' : (seq key (char '=')).read t = none := by simpa [one, hc] using hkey
      refine .fails (read_rule_of_none (read_seq_of_none hkey' _) .item) ?_
      simp [Line.keyAndValue, hd, hc]

theorem agrees_sectionHeader (t : Text) : Agrees t sectionHeader Line.bracketedName := by
  cases t with
  | nil => exact .fails rfl rfl
  | cons c r =>
    by_cases hc : c = '['
    · subst hc
      have hopen : (char '[').read ('[' :: r) = some ([], r) := rfl
      have hname := read_seq_of_some hopen sectionName
      rw [read_sectionName] at hname
      have hread := read_seq_of_some hname (char ']')
      have hr := Line.sectionName_append r
      rcases hs : Line.sectionName r with ⟨name, rest⟩
      rw [hs] at hread hr
      -- the name stopped at the end, at the bracket that ends the text, or at a line feed
      match rest with
      | [] => exact .fails (read_rule_of_none hread _) (by rw [Line.bracketedName, hs])
      | c' :: rest =>
        by_cases hc' : c' = ']'
        · subst hc'
          have ht : '[' :: r = ('[' :: name ++ [']']) ++ rest := by rw [← hr]; simp
          exact .reads (read_rule_of_some hread ht .sectionHeader)
            (by rw [Line.bracketedName, hs]; rfl)
        · have hclose : (seq (seq (char '[') sectionName) (char ']')).read ('[' :: r) = none := by
            simpa [read_char, one, hc'] using hread
          refine .fails (read_rule_of_none hclose _) ?_
          simp [Line.bracketedName, hs, hc']
    · have hopen : (char '[').read (c :: r) = none := by simp [read_char, one, hc]
      refine .fails (read_rule_of_none (read_seq_of_none (read_seq_of_none hopen _) _) _) ?_
      simp [Line.bracketedName, hc]

/-- Up to the end of the text, rule and recogniser agree about the whole. -/
theorem Agrees.whole_eq (h : Agrees t e recognise) : whole e t = recognise.whole t := by
  cases h with
  | fails he hr => simp [whole, read_seq, Line.Recogniser.whole, he, hr]
  | @reads n r he hr =>
    cases r with
    | nil => simp [whole, read_seq, read_endOfInput, Line.Recogniser.whole, he, hr, meaning]
    | cons c r => simp [whole, read_seq, read_endOfInput, Line.Recogniser.whole, he, hr]

/-! ## Lines -/

/-- A character is at least one byte. -/
theorem length_le_length_encode (t : Text) : t.length ≤ (Utf8.encode t).length := by
  induction t with
  | nil => exact Nat.le_refl 0
  | cons c t ih =>
    have hchar : 1 ≤ (Utf8.encodeChar c).length := by
      unfold Utf8.encodeChar
      dsimp only
      repeat' split
      all_goals simp
    have hlength : (Utf8.encode (c :: t)).length =
        (Utf8.encodeChar c).length + (Utf8.encode t).length := by simp [Utf8.encode]
    rw [hlength, List.length_cons]
    omega

theorem exceedsMaxLength_iff : exceedsMaxLength t ↔ Line.maxLength < t.length := by
  have hle := length_le_length_encode t
  simp only [exceedsMaxLength, Bool.and_eq_true, decide_eq_true_eq]
  omega

/-- A line has the first of the forms that is one of the whole text. -/
theorem meaning_read_line (t : Text) :
    (line.read t).map (fun (parse, _) => meaning t (parse.head?.elim [] (·.inner))) =
      ((whole comment t).or (whole item t)).or (whole sectionHeader t) := by
  unfold whole
  rw [line, read_rule, read_choice, read_choice, Option.map_map, Option.map_or, Option.map_or]
  rfl

theorem classify_eq (t : Text) : classify t = Line.classify t := by
  by_cases hs : t = [] ∨ Line.maxLength < t.length
  · have hs' : t = [] ∨ exceedsMaxLength t = true := hs.imp_right exceedsMaxLength_iff.2
    rw [classify, if_pos hs', Line.classify, if_pos hs]
  · have hs' : ¬ (t = [] ∨ exceedsMaxLength t = true) :=
      fun h => hs (h.imp_right exceedsMaxLength_iff.1)
    rw [classify, if_neg hs', Line.classify, if_neg hs, meaning_read_line,
      (agrees_comment t).whole_eq, (agrees_item t).whole_eq, (agrees_sectionHeader t).whole_eq]
    cases hc : Line.comment.whole t <;> cases hi : Line.keyAndValue.whole t <;>
      cases hh : Line.bracketedName.whole t <;> simp [hc, hi, hh]

/-- **The grammar accepts exactly the forms of lines**: read by it, a text says what it says to the
recognisers, and that is the one line whose form the text has. -/
theorem classify_iff_hasForm (t : Text) (l : Line) :
    classify t = Line.classify t ∧ (classify t = l ↔ Line.HasForm t l) :=
  ⟨classify_eq t, by rw [classify_eq, Line.classify_eq_iff]⟩

end Grammar

end IniConfig
