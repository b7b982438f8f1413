import Mathlib.Algebra.BigOperators.Group.List.Basic
import TargetHelp.Proofs.References

/-!
# Expansion as a cross product

A text with `k` references expands to one text for every way to choose a value
for each of them. The texts come in the order of their positions written with
mixed radices: the radix at a place is the number of values of the reference
there, and the last place counts fastest (`expand_eq_crossProduct`).

Expansion goes through the template part by part, and a position in a product is
divided by the size of what varies faster (`getElem?_flatMap_map`). So the digit
of the first reference is the quotient, and the remainder is a position in the
expansion of what stands behind it.
-/

namespace TargetHelp

/-! ## Choosing values -/

/-- The values that a reference may take: those of its variable, or itself as it
is written if the variable is undefined or has none. -/
def Reference.choices (vars : Variables) (r : Reference) : List Text :=
  match vars.get? r.name with
  | some (v :: vs) => v :: vs
  | _ => [r.written]

/-- The numbers of values that the references of a cut text may take. -/
def radices (vars : Variables) (ps : List (Reference × Text)) : List Nat :=
  ps.map fun p => (p.1.choices vars).length

/-- The digits of a number under these radices, the last of which counts the
ones. -/
def digits : List Nat → Nat → List Nat
  | [], _ => []
  | _ :: ns, i => i / ns.prod :: digits ns (i % ns.prod)

/-- A cut text behind its first reference, with the value of that number for
every reference. There is no answer if a reference has no value of its number,
or if there are more or fewer numbers than references. -/
def fill? (vars : Variables) : List (Reference × Text) → List Nat → Option Text
  | [], [] => some []
  | (r, l) :: ps, d :: ds =>
    (r.choices vars)[d]?.bind fun v => (fill? vars ps ds).map fun rest => v ++ l ++ rest
  | _, _ => none

theorem Reference.choices_eq (vars : Variables) (r : Reference) :
    Part.choices vars (.reference r) = r.choices vars := by
  rw [Part.choices, Variables.values, Reference.choices]
  rcases vars.get? r.name with _ | _ | ⟨v, vs⟩ <;> rfl

/-- There is always a value to choose. -/
theorem Reference.choices_length_pos (vars : Variables) (r : Reference) :
    0 < (r.choices vars).length := by
  rw [Reference.choices]
  split <;> exact Nat.succ_pos _

theorem radices_prod_pos (vars : Variables) (ps : List (Reference × Text)) :
    0 < (radices vars ps).prod := by
  induction ps with
  | nil => exact Nat.one_pos
  | cons p ps ih =>
    rw [radices, List.map_cons, List.prod_cons]
    exact Nat.mul_pos (p.1.choices_length_pos vars) ih

/-! ## Positions in a product -/

theorem length_flatMap_map {α β γ : Type} (f : α → β → γ) (xs : List α) (ys : List β) :
    (xs.flatMap fun x => ys.map (f x)).length = xs.length * ys.length := by
  simp [List.length_flatMap]

/-- In a product whose second factor varies faster, a position is a quotient and
a remainder by the length of that factor. -/
theorem getElem?_flatMap_map {α β γ : Type} (f : α → β → γ) (xs : List α) {ys : List β}
    (hys : 0 < ys.length) (i : Nat) :
    (xs.flatMap fun x => ys.map (f x))[i]? =
      xs[i / ys.length]?.bind fun x => ys[i % ys.length]?.map (f x) := by
  induction xs generalizing i with
  | nil => rfl
  | cons x xs ih =>
    rw [List.flatMap_cons]
    by_cases hi : i < ys.length
    · rw [List.getElem?_append_left (by rw [List.length_map]; exact hi), List.getElem?_map,
        Nat.div_eq_of_lt hi, Nat.mod_eq_of_lt hi]
      rfl
    · have hle : ys.length ≤ i := Nat.le_of_not_lt hi
      have hdiv : i / ys.length = (i - ys.length) / ys.length + 1 :=
        Nat.div_eq_sub_div hys hle
      have hmod : i % ys.length = (i - ys.length) % ys.length := Nat.mod_eq_sub_mod hle
      rw [List.getElem?_append_right (by rw [List.length_map]; exact hle), List.length_map, ih,
        hdiv, hmod, List.getElem?_cons_succ]

/-! ## Expanding a cut text -/

/-- Characters that stand for themselves stand in front of every text. -/
theorem Template.expand_literals (vars : Variables) (l : Text) (t : Template) :
    Template.expand vars (l.map .literal ++ t) = (Template.expand vars t).map (l ++ ·) := by
  induction l with
  | nil => simp
  | cons c l ih =>
    rw [List.map_cons, List.cons_append, Template.expand, ih]
    simp [Part.choices]

/-- The texts of a cut text whose first part is a reference. -/
theorem Template.expand_reference (vars : Variables) (r : Reference) (t : Template) :
    Template.expand vars (.reference r :: t) =
      (r.choices vars).flatMap fun v => (Template.expand vars t).map (v ++ ·) := by
  rw [Template.expand, Reference.choices_eq]

/-- A cut text expands to as many texts as there are ways to choose values. -/
theorem Template.length_expand_ofSplit (vars : Variables) (l : Text)
    (ps : List (Reference × Text)) :
    (Template.expand vars (ofSplit l ps)).length = (radices vars ps).prod := by
  induction ps generalizing l with
  | nil =>
    rw [ofSplit, expand_literals, List.length_map]
    rfl
  | cons p ps ih =>
    have hrest := ih p.2
    rw [ofSplit] at hrest
    rw [ofSplit, expand_literals, List.length_map, List.flatMap_cons, List.cons_append,
      expand_reference, length_flatMap_map, hrest, radices, radices, List.map_cons,
      List.prod_cons]

/-- The text at a position is filled in with the digits of the position. -/
theorem Template.getElem?_expand_ofSplit (vars : Variables) (l : Text)
    (ps : List (Reference × Text)) {i : Nat} (hi : i < (radices vars ps).prod) :
    (Template.expand vars (ofSplit l ps))[i]? =
      (fill? vars ps (digits (radices vars ps) i)).map (l ++ ·) := by
  induction ps generalizing l i with
  | nil =>
    have hzero : i = 0 := Nat.lt_one_iff.mp hi
    subst hzero
    rw [ofSplit, expand_literals]
    rfl
  | cons p ps ih =>
    obtain ⟨r, l'⟩ := p
    have hpos : 0 < (radices vars ps).prod := radices_prod_pos vars ps
    have hlength := length_expand_ofSplit vars l' ps
    have hrest := @ih l' (i % (radices vars ps).prod) (Nat.mod_lt _ hpos)
    rw [ofSplit] at hrest hlength
    rw [ofSplit, expand_literals, List.getElem?_map, List.flatMap_cons, List.cons_append,
      expand_reference, getElem?_flatMap_map _ _ (hlength ▸ hpos), hlength, hrest]
    -- both sides choose the value of `r` by the quotient and go on with the remainder
    change _ = Option.map (l ++ ·) ((r.choices vars)[i / (radices vars ps).prod]?.bind fun v =>
      (fill? vars ps (digits (radices vars ps) (i % (radices vars ps).prod))).map
        fun rest => v ++ l' ++ rest)
    simp only [Option.map_map, Function.comp_def, List.append_assoc]

/-- A text without a dollar sign expands to itself alone. -/
theorem Variables.expand_of_not_mem (vars : Variables) {t : Text} (h : '$' ∉ t) :
    vars.expand t = [t] := by
  rw [Variables.expand, Template.parse_of_leftmostSplit (.of_not_mem h), Template.ofSplit,
    Template.expand_literals]
  simp [Template.expand]

/-- **Expansion is the ordered cross product.** A text is cut at its leftmost
references in exactly one way, and the cut loses nothing of it. It expands to as
many texts as there are ways to choose a value for every reference, and the text
at any position is the cut filled in with the values that the digits of the
position choose. Values are put in as they are. -/
theorem expand_eq_crossProduct (vars : Variables) (t : Text) :
    ∃ l ps, LeftmostSplit t l ps ∧ (∀ l' ps', LeftmostSplit t l' ps' → l' = l ∧ ps' = ps) ∧
      rejoin l ps = t ∧
      (vars.expand t).length = (radices vars ps).prod ∧
      ∀ i < (vars.expand t).length,
        (vars.expand t)[i]? =
          (fill? vars ps (digits (radices vars ps) i)).map (l ++ ·) := by
  obtain ⟨l, ps, hsplit⟩ : ∃ l ps, LeftmostSplit t l ps := ⟨_, _, Template.leftmostSplit_parse t⟩
  have hexpand : vars.expand t = Template.expand vars (Template.ofSplit l ps) := by
    rw [Variables.expand, Template.parse_of_leftmostSplit hsplit]
  have hlength : (vars.expand t).length = (radices vars ps).prod := by
    rw [hexpand, Template.length_expand_ofSplit]
  refine ⟨l, ps, hsplit, ?_, hsplit.rejoin_eq, hlength, ?_⟩
  · intro l' ps' hsplit'
    have heq : (l', ps') = (l, ps) :=
      (Template.leftmostSplit_iff.mp hsplit').symm.trans (Template.leftmostSplit_iff.mp hsplit)
    cases heq
    exact ⟨rfl, rfl⟩
  · intro i hi
    rw [hlength] at hi
    rw [hexpand, Template.getElem?_expand_ofSplit vars l ps hi]

end TargetHelp
