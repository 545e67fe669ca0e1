import IniConfig.Proofs.Requests

/-!
# Erasing a key at once and entry by entry

Erasing all entries of a key comes to the same as erasing the first one as long as there is one
(`CachedDocument.erasesInTurn`). On the document this is an induction on the number of the entries
(`Document.performAll_eraseFirst`). The snapshot is taken again after each single entry, but after
erasing them all only once, and not at all if there is none; that does not matter, as both ways keep
the name that it holds, and it agrees with the document after both.
-/

namespace IniConfig

namespace Section

variable {s rest : Section} {key : Text} {e : Entry}

/-- The entries with this key, in order. -/
def entriesOf (s : Section) (key : Text) : Section := s.filter (·.key = key)

theorem length_entriesOf (s : Section) (key : Text) : (s.entriesOf key).length = s.countKey key :=
  List.countP_eq_length_filter.symm

theorem entriesOf_of_countKey_eq_zero (h : s.countKey key = 0) : s.entriesOf key = [] := by
  rw [← List.length_eq_zero_iff, length_entriesOf, h]

theorem exists_eraseFirst? (h : s.countKey key ≠ 0) :
    ∃ e rest, s.eraseFirst? key = some (e, rest) := by
  cases hs : s.eraseFirst? key with
  | none => exact absurd (countKey_eq_zero_iff.2 (eraseFirst?_eq_none_iff.1 hs)) h
  | some r => exact ⟨r.1, r.2, rfl⟩

theorem countKey_eraseKey (s : Section) (key : Text) : (s.eraseKey key).countKey key = 0 := by
  rw [countKey, eraseKey, List.countP_eq_zero]
  intro e he
  simpa using (List.mem_filter.1 he).2

/-- The entry that is erased has the key, and those in front of it do not. -/
theorem exists_append_of_eraseFirst? (h : s.eraseFirst? key = some (e, rest)) :
    ∃ front back, s = front ++ e :: back ∧ rest = front ++ back ∧ e.key = key ∧
      ∀ e' ∈ front, e'.key ≠ key := by
  obtain ⟨e', hfind, he⟩ := Option.map_eq_some_iff.1 h
  obtain ⟨rfl, rfl⟩ := Prod.mk.inj he
  obtain ⟨hkey, front, back, rfl, hfront⟩ := List.find?_eq_some_iff_append.1 hfind
  have hfront : ∀ e' ∈ front, ¬ (decide (e'.key = key)) = true := by simpa using hfront
  refine ⟨front, back, rfl, ?_, by simpa using hkey, by simpa using hfront⟩
  rw [List.eraseP_append_right _ hfront]
  exact congrArg (front ++ ·) (List.eraseP_cons_of_pos hkey)

/-- What is erased is the first of the entries with the key, and all others stay. -/
theorem entriesOf_of_eraseFirst? (h : s.eraseFirst? key = some (e, rest)) :
    s.entriesOf key = e :: rest.entriesOf key ∧ rest.eraseKey key = s.eraseKey key := by
  obtain ⟨front, back, rfl, rfl, hkey, hfront⟩ := exists_append_of_eraseFirst? h
  have hnone : front.filter (·.key = key) = [] := by
    rw [List.filter_eq_nil_iff]
    simpa using hfront
  constructor
  · rw [entriesOf, entriesOf, List.filter_append, List.filter_append, hnone,
      List.filter_cons_of_pos (by simpa using hkey)]
    rfl
  · rw [eraseKey, eraseKey, List.filter_append, List.filter_append,
      List.filter_cons_of_neg (by simpa using hkey)]

end Section

namespace Document

variable {d : Document} {name : Text} {s : Section}

/-- **The entries of a key are erased one after the other**, until there is none. -/
theorem performAll_eraseFirst (hd : d.names.Nodup) (hs : d.find? name = some s) (key : Text) :
    d.performAll (List.replicate (s.countKey key) (.eraseFirst name key)) =
      ((s.entriesOf key).map fun e => .ok (.entry e), d.modify name fun _ => s.eraseKey key) := by
  generalize hn : s.countKey key = n
  induction n generalizing d s with
  | zero =>
    have hkept : (d.modify name fun _ => s.eraseKey key) = d :=
      modify_eq_self hd hs (Section.eraseKey_eq_self hn)
    rw [Section.entriesOf_of_countKey_eq_zero hn, hkept]
    rfl
  | succ n ih =>
    have hcount : s.countKey key ≠ 0 := by
      rw [hn]
      exact Nat.succ_ne_zero n
    obtain ⟨e, rest, he⟩ := Section.exists_eraseFirst? hcount
    obtain ⟨hentries, hkept⟩ := Section.entriesOf_of_eraseFirst? he
    have hrest : rest.countKey key = n := by
      rw [← Section.length_entriesOf, hentries, List.length_cons, Section.length_entriesOf] at hn
      exact Nat.succ.inj hn
    have hfirst : d.perform (.eraseFirst name key) =
        (.ok (.entry e), d.modify name fun _ => rest) := by
      have hok := eraseFirst_eq_ok_iff.2 ⟨s, rest, hs, he, rfl⟩
      rw [perform, hok]
    have hd' : (d.modify name fun _ => rest).names.Nodup := by
      rw [names_modify]
      exact hd
    have hs' : (d.modify name fun _ => rest).find? name = some rest := by
      rw [find?_modify_self, hs]
      rfl
    have hmore := ih hd' hs' hrest
    rw [modify_modify, hkept] at hmore
    simp only [List.replicate_succ, performAll, hfirst, hmore, hentries]
    rfl

end Document

namespace CachedDocument

variable {c : CachedDocument} {name key : Text} {s : Section}

/-- Erasing the entries of a key at once and erasing them one after the other come to the same, and
all else is kept. -/
structure ErasesInTurn (c : CachedDocument) (name key : Text) (s : Section) (n : Nat)
    (c' : CachedDocument) : Prop where
  atOnce : c.perform (.erase name key) = (.ok (.count n), c')
  inTurn : c.performAll (List.replicate n (.eraseFirst name key)) =
    ((s.filter (·.key = key)).map fun e => .ok (.entry e), c')
  refused : c'.perform (.eraseFirst name key) = (.error (.entryNotFound name key), c')
  left : c'.document.find? name = some (s.filter (·.key ≠ key))
  others : ∀ other, other ≠ name → c'.document.find? other = c.document.find? other
  names : c'.document.names = c.document.names
  held : c'.snapshot.name? = c.snapshot.name?

theorem name?_perform_eraseFirst (c : CachedDocument) (name key : Text) :
    (c.perform (.eraseFirst name key)).2.snapshot.name? = c.snapshot.name? := by
  simp only [perform]
  cases h : c.eraseFirst name key with
  | error fault => rfl
  | ok r => exact (names_of_eraseFirst h).2

theorem name?_performAll_eraseFirst (c : CachedDocument) (name key : Text) (n : Nat) :
    (c.performAll (List.replicate n (.eraseFirst name key))).2.snapshot.name? =
      c.snapshot.name? := by
  induction n generalizing c with
  | zero => rfl
  | succ n ih => exact (ih _).trans (c.name?_perform_eraseFirst name key)

theorem name?_perform_erase (c : CachedDocument) (name key : Text) :
    (c.perform (.erase name key)).2.snapshot.name? = c.snapshot.name? := by
  simp only [perform]
  cases h : c.erase name key with
  | error fault => rfl
  | ok r => exact (names_of_erase h).2

theorem perform_erase_of_missing (h : c.document.find? name = none) (key : Text) :
    c.perform (.erase name key) = (.error (.sectionNotFound name), c) := by
  simp [perform, erase, Document.erase, h, Except.map]

theorem perform_eraseFirst_of_missing (h : c.document.find? name = none) (key : Text) :
    c.perform (.eraseFirst name key) = (.error (.sectionNotFound name), c) := by
  simp [perform, eraseFirst, Document.eraseFirst, h, Except.map]

theorem perform_eraseFirst_of_not_hasKey (hs : c.document.find? name = some s)
    (hkey : s.countKey key = 0) :
    c.perform (.eraseFirst name key) = (.error (.entryNotFound name key), c) := by
  have hnone : s.eraseFirst? key = none :=
    Section.eraseFirst?_eq_none_iff.2 (Section.countKey_eq_zero_iff.1 hkey)
  simp [perform, eraseFirst, Document.eraseFirst, hs, hnone, Except.map]

theorem erasesInTurn_of_sound (h : c.Sound) (hs : c.document.find? name = some s) (key : Text) :
    c.ErasesInTurn name key s (s.countKey key) (c.perform (.erase name key)).2 := by
  have herase : c.document.perform (.erase name key) =
      (.ok (.count (s.countKey key)), c.document.modify name fun _ => s.eraseKey key) := by
    have hok : c.document.erase name key =
        .ok (s.countKey key, c.document.modify name fun _ => s.eraseKey key) :=
      Document.erase_eq_ok_iff.2 ⟨s, hs, rfl, rfl⟩
    rw [Document.perform, hok]
  obtain ⟨hreply, hdocument⟩ := Prod.mk.inj ((perform_eq h (.erase name key)).trans herase)
  obtain ⟨hreplies, hdocuments⟩ := Prod.mk.inj
    ((performAll_eq h _).trans (Document.performAll_eraseFirst h.nodup hs key))
  have hleft : (c.perform (.erase name key)).2.document.find? name = some (s.eraseKey key) := by
    rw [hdocument, Document.find?_modify_self, hs]
    rfl
  constructor
  case atOnce => exact Prod.ext hreply rfl
  case inTurn =>
    refine Prod.ext hreplies ?_
    have hname := (name?_performAll_eraseFirst c name key (s.countKey key)).trans
      (c.name?_perform_erase name key).symm
    exact (sound_performAll h _).toCoherent.eq_of (sound_perform h _).toCoherent
      (hdocuments.trans hdocument.symm) hname
  case refused => exact perform_eraseFirst_of_not_hasKey hleft (Section.countKey_eraseKey s key)
  case left => exact hleft
  case others =>
    intro other hother
    rw [hdocument, Document.find?_modify, if_neg hother]
  case names => rw [hdocument, Document.names_modify]
  case held => exact c.name?_perform_erase name key

/-- **Erasing all entries of a key is erasing the first one as often as there is one**, whatever was
done with the document before; in a missing section neither erases anything. -/
theorem erasesInTurn (ops : List Operation) (name key : Text) :
    (∀ s, (empty.performAll ops).2.document.find? name = some s →
      ∃ n c', (empty.performAll ops).2.ErasesInTurn name key s n c') ∧
    ((empty.performAll ops).2.document.find? name = none →
      (empty.performAll ops).2.perform (.erase name key) =
          (.error (.sectionNotFound name), (empty.performAll ops).2) ∧
        (empty.performAll ops).2.perform (.eraseFirst name key) =
          (.error (.sectionNotFound name), (empty.performAll ops).2)) := by
  constructor
  · intro s hs
    exact ⟨_, _, erasesInTurn_of_sound (sound_performAll sound_empty ops) hs key⟩
  · intro hs
    exact ⟨perform_erase_of_missing hs key, perform_eraseFirst_of_missing hs key⟩

/-- Two entries of the section in the snapshot go, the one between them stays. -/
theorem erasesInTurn_two_entries :
    let ops : List Operation := [.append "a".toList ⟨"k".toList, "1".toList⟩,
      .append "a".toList ⟨"x".toList, "2".toList⟩, .append "a".toList ⟨"k".toList, "3".toList⟩,
      .look (.cache "a".toList)]
    let c := (empty.performAll ops).2
    let first : Operation := .eraseFirst "a".toList "k".toList
    (c.document.find? "a".toList).isSome = true ∧
      c.performAll [first, first] =
        ([.ok (.entry ⟨"k".toList, "1".toList⟩), .ok (.entry ⟨"k".toList, "3".toList⟩)],
          (c.perform (.erase "a".toList "k".toList)).2) ∧
      c.document.find? "b".toList = none ∧
      c.perform (.eraseFirst "b".toList "k".toList) =
        (.error (.sectionNotFound "b".toList), c) := by
  intro ops c first
  have hthere : c.document.find? "a".toList = some [⟨"k".toList, "1".toList⟩,
      ⟨"x".toList, "2".toList⟩, ⟨"k".toList, "3".toList⟩] := by decide
  have hmissing : c.document.find? "b".toList = none := by decide
  obtain ⟨n, c', h⟩ := (erasesInTurn ops "a".toList "k".toList).1 _ hthere
  have hreply : (c.perform (.erase "a".toList "k".toList)).1 = .ok (.count n) :=
    congrArg Prod.fst h.atOnce
  have hstate : (c.perform (.erase "a".toList "k".toList)).2 = c' := congrArg Prod.snd h.atOnce
  have htwo : (c.perform (.erase "a".toList "k".toList)).1 = .ok (.count 2) := by decide
  obtain rfl : n = 2 := Answer.count.inj (Except.ok.inj (hreply.symm.trans htwo))
  refine ⟨rfl, ?_, hmissing, ((erasesInTurn ops "b".toList "k".toList).2 hmissing).2⟩
  rw [hstate]
  exact h.inTurn

end CachedDocument

end IniConfig
