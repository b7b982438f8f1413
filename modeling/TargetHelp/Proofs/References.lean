import Mathlib.Data.List.TakeWhile
import TargetHelp.Template

/-!
# Where the references of a text are

A reference is written with a dollar sign and a name in brackets, and the name
must not contain what would end it (`Reference.Proper`). Which references a text
has is a matter of the text alone: cut it at the leftmost place where a
reference begins, and go on behind that reference (`LeftmostSplit`).

Every text can be cut in exactly one way, and its template is that cut written
part by part (`leftmostSplit_iff`). The relation knows nothing of how a
reference is read, so this says that reading from the left misses none and sees
none that is not there.
-/

namespace TargetHelp

/-! ## Reading up to a character -/

namespace Text

variable {p : Char → Bool} {front : Text} {c : Char}

/-- What stands in front of the first character that is not passed over. -/
theorem takeWhile_append_cons (hfront : ∀ x ∈ front, p x = true) (hc : p c = false) (back : Text) :
    (front ++ c :: back).takeWhile p = front := by
  rw [List.takeWhile_append_of_pos hfront, List.takeWhile_cons_of_neg (by simp [hc]),
    List.append_nil]

/-- What stands from the first character on that is not passed over. -/
theorem dropWhile_append_cons (hfront : ∀ x ∈ front, p x = true) (hc : p c = false) (back : Text) :
    (front ++ c :: back).dropWhile p = c :: back := by
  rw [List.dropWhile_append_of_pos hfront, List.dropWhile_cons_of_neg (by simp [hc])]

end Text

/-! ## References -/

/-- A reference that can be written: its name is not empty, and free of blanks,
of the signs that make a definition, and of the brackets around it. -/
structure Reference.Proper (r : Reference) : Prop where
  /-- the name is not empty -/
  name_ne_nil : r.name ≠ []
  /-- the name holds none of the characters that would end it -/
  name_chars : ∀ c ∈ r.name, isBlank c = false ∧ c ≠ ':' ∧ c ≠ '#' ∧ c ≠ '=' ∧
    c ≠ r.bracket.opening ∧ c ≠ r.bracket.closing

/-- A reference begins where this text begins. -/
def Begins (t : Text) : Prop := ∃ r : Reference, r.Proper ∧ r.written <+: t

namespace Reference

theorem isNameChar_iff {b : Bracket} {c : Char} :
    isNameChar b c = true ↔ isBlank c = false ∧ c ≠ ':' ∧ c ≠ '#' ∧ c ≠ '=' ∧
      c ≠ b.opening ∧ c ≠ b.closing := by
  simp only [isNameChar, isNameBreak, Bool.and_eq_true, Bool.not_eq_true', Bool.or_eq_false_iff,
    decide_eq_true_eq, decide_eq_false_iff_not, and_assoc, ne_eq]

theorem ofOpening?_opening (b : Bracket) : Bracket.ofOpening? b.opening = some b := by
  cases b <;> rfl

/-- A name is read up to the closing bracket. -/
theorem readName?_of_proper {r : Reference} (h : r.Proper) (rest : Text) :
    readName? r.bracket (r.name ++ r.bracket.closing :: rest) = some (r, rest) := by
  have hname : ∀ c ∈ r.name, isNameChar r.bracket c = true :=
    fun c hc => isNameChar_iff.mpr (h.name_chars c hc)
  have hclosing : isNameChar r.bracket r.bracket.closing = false := by
    cases r.bracket <;> rfl
  rw [readName?, Text.dropWhile_append_cons hname hclosing, Text.takeWhile_append_cons hname hclosing]
  exact if_pos ⟨h.name_ne_nil, rfl⟩

/-- Exactly the references that can be written are read. -/
theorem read?_eq_some_iff {t rest : Text} {r : Reference} :
    read? t = some (r, rest) ↔ r.Proper ∧ t = r.written ++ rest := by
  constructor
  · intro h
    refine ⟨?_, eq_of_read? h⟩
    unfold read? at h
    split at h
    · obtain ⟨b, -, hname⟩ := Option.bind_eq_some_iff.mp h
      obtain ⟨-, hb, hne, hchars⟩ := eq_of_readName? hname
      exact ⟨hne, fun c hc => isNameChar_iff.mp (hb ▸ hchars c hc)⟩
    · cases h
  · rintro ⟨hr, rfl⟩
    have hwritten : r.written ++ rest =
        '$' :: r.bracket.opening :: (r.name ++ r.bracket.closing :: rest) := by
      simp [written]
    rw [hwritten, read?, ofOpening?_opening, Option.bind_some, readName?_of_proper hr]

/-- Nothing is read exactly where no reference begins. -/
theorem read?_eq_none_iff {t : Text} : read? t = none ↔ ¬ Begins t := by
  constructor
  · rintro h ⟨r, hr, rest, rfl⟩
    rw [read?_eq_some_iff.mpr ⟨hr, rfl⟩] at h
    cases h
  · intro h
    cases hread : read? t with
    | none => rfl
    | some found =>
      obtain ⟨hr, ht⟩ := read?_eq_some_iff.mp hread
      exact absurd ⟨found.1, hr, found.2, ht.symm⟩ h

end Reference

/-- A reference begins with a dollar sign. -/
theorem Begins.head {c : Char} {t : Text} (h : Begins (c :: t)) : c = '$' := by
  obtain ⟨r, -, rest, hrest⟩ := h
  exact (List.cons.inj hrest).1.symm

/-! ## Cutting a text at its references -/

/-- A text cut at its references from the left: what stands in front of the
first, and each reference with what stands behind it, up to the next. Nowhere in
what stands between does a reference begin. -/
inductive LeftmostSplit : Text → Text → List (Reference × Text) → Prop where
  /-- no reference is left -/
  | last {l : Text} (hleft : ∀ i < l.length, ¬ Begins (l.drop i)) : LeftmostSplit l l []
  /-- the leftmost reference, and the cut of what stands behind it -/
  | next {l l' rest : Text} {r : Reference} {ps : List (Reference × Text)} (hr : r.Proper)
      (hleft : ∀ i < l.length, ¬ Begins ((l ++ (r.written ++ rest)).drop i))
      (h : LeftmostSplit rest l' ps) :
      LeftmostSplit (l ++ (r.written ++ rest)) l ((r, l') :: ps)

/-- A cut text as it is written. -/
def rejoin (l : Text) (ps : List (Reference × Text)) : Text :=
  l ++ ps.flatMap fun p => p.1.written ++ p.2

/-- The template of a cut text. -/
def Template.ofSplit (l : Text) (ps : List (Reference × Text)) : Template :=
  l.map .literal ++ ps.flatMap fun p => .reference p.1 :: p.2.map .literal

/-- The cut that a template is the template of. -/
def Template.split : Template → Text × List (Reference × Text)
  | [] => ([], [])
  | .literal c :: rest => (c :: (split rest).1, (split rest).2)
  | .reference r :: rest => ([], (r, (split rest).1) :: (split rest).2)

namespace LeftmostSplit

/-- Cutting a text loses nothing of it. -/
theorem rejoin_eq {t l : Text} {ps : List (Reference × Text)} (h : LeftmostSplit t l ps) :
    rejoin l ps = t := by
  induction h with
  | last => exact List.append_nil _
  | next hr hleft h ih =>
    rw [rejoin] at ih ⊢
    rw [List.flatMap_cons, ← ih]
    simp only [List.append_assoc]

/-- A text is cut at references that can be written. -/
theorem proper {t l : Text} {ps : List (Reference × Text)} (h : LeftmostSplit t l ps) :
    ∀ p ∈ ps, p.1.Proper := by
  induction h with
  | last => exact fun _ hp => absurd hp List.not_mem_nil
  | next hr _ _ ih => exact List.forall_mem_cons.mpr ⟨hr, ih⟩

/-- A character where no reference begins stands in front of the cut. -/
theorem cons {t l : Text} {ps : List (Reference × Text)} {c : Char}
    (hc : ¬ Begins (c :: t)) (h : LeftmostSplit t l ps) : LeftmostSplit (c :: t) (c :: l) ps := by
  cases h with
  | last hleft =>
    refine .last fun i hi => ?_
    cases i with
    | zero => exact hc
    | succ i => exact hleft i (Nat.lt_of_succ_lt_succ hi)
  | next hr hleft h =>
    refine .next (l := c :: _) hr (fun i hi => ?_) h
    cases i with
    | zero => exact hc
    | succ i => exact hleft i (Nat.lt_of_succ_lt_succ hi)

/-- A text without a dollar sign has no references. -/
theorem of_not_mem {t : Text} (h : '$' ∉ t) : LeftmostSplit t t [] := by
  refine .last fun i hi hbegins => h ?_
  rw [List.drop_eq_getElem_cons hi] at hbegins
  exact hbegins.head ▸ List.getElem_mem hi

end LeftmostSplit

namespace Template

@[simp] theorem split_ofSplit (l : Text) (ps : List (Reference × Text)) :
    split (ofSplit l ps) = (l, ps) := by
  have hfront : ∀ (l : Text) (rest : Template),
      split (l.map .literal ++ rest) = (l ++ (split rest).1, (split rest).2) := by
    intro l rest
    induction l with
    | nil => rfl
    | cons c l ih => simp [split, ih]
  induction ps generalizing l with
  | nil => simpa [ofSplit, split] using hfront l []
  | cons p ps ih =>
    have hrest := ih p.2
    rw [ofSplit] at hrest ⊢
    rw [List.flatMap_cons, hfront, List.cons_append, split, hrest]
    simp

/-- Characters where no reference begins are literals. -/
theorem parse_append {l t : Text} (h : ∀ i < l.length, ¬ Begins ((l ++ t).drop i)) :
    parse (l ++ t) = l.map .literal ++ parse t := by
  induction l with
  | nil => rfl
  | cons c l ih =>
    have hc : Reference.read? (c :: (l ++ t)) = none :=
      Reference.read?_eq_none_iff.mpr (h 0 (Nat.succ_pos _))
    have hl : ∀ i < l.length, ¬ Begins ((l ++ t).drop i) :=
      fun i hi => h (i + 1) (Nat.succ_lt_succ hi)
    rw [List.cons_append, parse_cons_of_read?_eq_none hc, ih hl]
    rfl

/-- The template of a text is that of its cut. -/
theorem parse_of_leftmostSplit {t l : Text} {ps : List (Reference × Text)}
    (h : LeftmostSplit t l ps) : parse t = ofSplit l ps := by
  induction h with
  | @last l hleft =>
    have hparse := @parse_append l [] (by simpa using hleft)
    simpa [ofSplit] using hparse
  | @next l l' rest r ps hr hleft h ih =>
    have hread : Reference.read? (r.written ++ rest) = some (r, rest) :=
      Reference.read?_eq_some_iff.mpr ⟨hr, rfl⟩
    rw [parse_append hleft, parse_of_read? hread, ih]
    simp [ofSplit]

/-- Reading a text from the left cuts it at its references. -/
theorem leftmostSplit_parse (t : Text) :
    LeftmostSplit t (split (parse t)).1 (split (parse t)).2 := by
  induction t using parse_induction with
  | nil =>
    rw [parse_nil]
    exact .last fun i hi => absurd hi (Nat.not_lt_zero i)
  | reference t r rest hread ih =>
    obtain ⟨hr, rfl⟩ := Reference.read?_eq_some_iff.mp hread
    rw [parse_of_read? hread]
    exact .next (l := []) hr (fun i hi => absurd hi (Nat.not_lt_zero i)) ih
  | literal c t hread ih =>
    rw [parse_cons_of_read?_eq_none hread]
    exact ih.cons (Reference.read?_eq_none_iff.mp hread)

/-- Every text can be cut at its references, in exactly one way. -/
theorem leftmostSplit_iff {t l : Text} {ps : List (Reference × Text)} :
    LeftmostSplit t l ps ↔ split (parse t) = (l, ps) := by
  constructor
  · intro h
    rw [parse_of_leftmostSplit h, split_ofSplit]
  · intro h
    have hsplit := leftmostSplit_parse t
    rw [h] at hsplit
    exact hsplit

end Template

end TargetHelp
