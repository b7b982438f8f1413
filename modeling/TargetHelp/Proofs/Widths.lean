import Mathlib.Data.List.Basic
import TargetHelp.Text.Width

/-!
# Spaces behind a text

Where a text is drawn together with what follows it, a character may add a
negative number of columns: it takes back columns that the text behind it took.
It never takes back more than those (`Width.covers_place`), so the columns
of a text, counted as an integer, are no less than zero (`Width.total_nonneg`).

A space stands for itself, whatever is around it. So spaces that are put behind
a text add one column each (`width_append_spaces`).
-/

namespace TargetHelp

namespace Width

/-! ## What may be taken back -/

/-- The columns that a character in front of a letter may take back. -/
def Letter.reserve : Letter → Nat
  | .tifinaghPair => 1
  | .khmer => 1
  | _ => 0

/-- The columns that a character may take back from the text behind it, by what
that begins with. -/
def Follower.reserve : Follower → Nat
  | .letter l _ => l.reserve
  | .joinedFlag n => n % 2
  | _ => 0

theorem one_le_columns {c : Char} (h : zeroColumns.has c = false) : 1 ≤ columns c := by
  rw [columns]
  split
  · exact Nat.le_refl 1
  · split
    · decide
    · rw [if_neg (by simp [h])]
      split <;> decide

theorem reserve_ite_le {p : Prop} [Decidable p] {f g : Follower} {n : Nat}
    (hf : p → f.reserve ≤ n) (hg : g.reserve ≤ n) : (if p then f else g).reserve ≤ n := by
  split
  · next hp => exact hf hp
  · exact hg

/-- A character that stands alone takes what may be taken back from it. -/
theorem reserve_ofChar_le (c : Char) : (Follower.ofChar c).reserve ≤ columns c := by
  have hnone : ∀ {f : Follower}, f.reserve = 0 → f.reserve ≤ columns c :=
    fun h => h ▸ Nat.zero_le _
  rw [Follower.ofChar]
  iterate 8 refine reserve_ite_le (fun _ => hnone rfl) ?_
  -- of all characters, only the letters of Khmer leave something to be taken back
  refine reserve_ite_le (fun hkhmer => ?_) ?_
  · exact one_le_columns (CodePointSet.has_eq_false_of_disjoint (by decide +kernel) hkhmer)
  · iterate 3 refine reserve_ite_le (fun _ => hnone rfl) ?_
    exact hnone rfl

theorem reserve_letter_combine_le {c : Char} {joined : Bool} {l : Letter} {n : Int} {right : Right}
    (h : l.combine c joined = some (n, right)) :
    (right.follower.reserve : Int) ≤ l.reserve + n := by
  cases l <;> grind [Letter.combine, Letter.reserve, Follower.reserve, Right.of, Right.none]

/-- What a character takes back was there to be taken, and so is what is left
to be taken back from the longer text. -/
theorem reserve_combine_le {c : Char} {f : Follower} {n : Int} {right : Right}
    (h : f.combine c = some (n, right)) : (right.follower.reserve : Int) ≤ f.reserve + n := by
  cases f with
  | letter l joined =>
    have hletter : ∀ b, ((Follower.letter l b).reserve : Int) ≤ l.reserve + 0 :=
      fun b => Int.le_of_eq (Int.add_zero _).symm
    rw [Follower.combine] at h
    split at h
    · cases h
      exact hletter true
    · split at h
      · cases h
        exact hletter joined
      · exact reserve_letter_combine_le h
  | _ => grind [Follower.combine, Follower.reserve, Right.of, Right.none]

theorem reserve_past_le (right : Right) : right.past.reserve ≤ right.follower.reserve := by
  rw [Right.past]
  exact reserve_ite_le (fun _ => Nat.le_refl _) (Nat.zero_le _)

/-- A character that adds these columns, and makes a text begin like this, takes
back no more than may be taken back. -/
def Covers (reserve : Nat) (placed : Int × Right) : Prop :=
  (placed.2.follower.reserve : Int) ≤ reserve + placed.1

theorem covers_ite {p : Prop} [Decidable p] {reserve : Nat} {x y : Int × Right}
    (hx : p → Covers reserve x) (hy : Covers reserve y) :
    Covers reserve (if p then x else y) := by
  split
  · next hp => exact hx hp
  · exact hy

/-- No character takes back more than may be taken back. -/
theorem covers_place (c : Char) (right : Right) :
    Covers right.follower.reserve (place c right) := by
  have hpast := reserve_past_le right
  have hseen : (if right.past.isSeenThrough then right.past else .other).reserve ≤
      right.follower.reserve := reserve_ite_le (fun _ => hpast) (Nat.zero_le _)
  have hjoin : (if right.past.joinsEmoji then right.past
      else if right.past.isSeenThrough then right.past else .other).reserve ≤
      right.follower.reserve := reserve_ite_le (fun _ => hpast) hseen
  -- what adds columns and leaves nothing to be taken back
  have hnew : ∀ {n : Int} {r : Right}, 0 ≤ n → r.follower.reserve = 0 →
      Covers right.follower.reserve (n, r) := by
    intro n r hn hr
    simp only [Covers, hr]
    omega
  -- a selector adds none, and at most hides what is behind it
  have hselector : ∀ {r : Right}, r.follower.reserve ≤ right.follower.reserve →
      Covers right.follower.reserve (0, r) := by
    intro r hr
    simp only [Covers]
    omega
  rw [place]
  refine covers_ite (fun _ => hnew (by split <;> decide) rfl) ?_
  refine covers_ite (fun _ => hnew (by decide) rfl) ?_
  refine covers_ite (fun _ => hnew (by decide) (by split <;> rfl)) ?_
  refine covers_ite (fun _ => hselector hjoin) ?_
  refine covers_ite (fun _ => hselector hseen) ?_
  refine covers_ite (fun _ => hselector hseen) ?_
  refine covers_ite (fun _ => hnew (by decide) rfl) ?_
  refine covers_ite (fun _ => hnew (by decide) rfl) ?_
  cases hcombine : right.past.combine c with
  | none =>
    have hcolumns := reserve_ofChar_le c
    simp only [Option.getD_none, Covers, Right.of]
    omega
  | some placed =>
    have hplaced : (placed.2.follower.reserve : Int) ≤ right.past.reserve + placed.1 :=
      reserve_combine_le hcombine
    simp only [Option.getD_some, Covers]
    omega

/-! ## The columns of a text -/

/-- The columns of a text in front of another, and what the longer text begins
with. -/
def total (t : Text) (behind : Int × Right) : Int × Right :=
  t.foldr (fun c after => (after.1 + (place c after.2).1, (place c after.2).2)) behind

theorem width_eq (t : Text) : width t = (total t (0, .none)).1.toNat := rfl

theorem total_cons (c : Char) (t : Text) (behind : Int × Right) :
    total (c :: t) behind =
      ((total t behind).1 + (place c (total t behind).2).1, (place c (total t behind).2).2) := rfl

theorem total_append (s t : Text) (behind : Int × Right) :
    total (s ++ t) behind = total s (total t behind) := List.foldr_append

/-- More columns behind a text do not change how it is drawn. -/
theorem total_add (t : Text) (n : Int) (right : Right) :
    total t (n, right) = (n + (total t (0, right)).1, (total t (0, right)).2) := by
  induction t with
  | nil => exact Prod.ext (Int.add_zero n).symm rfl
  | cons c t ih =>
    rw [total_cons, total_cons, ih, Int.add_assoc]

/-- No text takes less than no columns. -/
theorem total_nonneg (t : Text) : 0 ≤ (total t (0, .none)).1 := by
  suffices ((total t (0, .none)).2.follower.reserve : Int) ≤ (total t (0, .none)).1 by omega
  induction t with
  | nil => exact Int.le_refl 0
  | cons c t ih =>
    have hcovers := covers_place c (total t (0, .none)).2
    rw [Covers] at hcovers
    simp only [total_cons]
    omega

/-- Spaces are drawn one by one, and nothing in front of them is joined to
them. -/
theorem total_spaces (n : Nat) :
    total (List.replicate n ' ') (0, .none) = ((n : Int), Right.none) := by
  have hspace : place ' ' .none = (1, .none) := by decide
  induction n with
  | zero => rfl
  | succ n ih =>
    rw [List.replicate_succ, total_cons, ih, hspace]
    rfl

end Width

/-- Spaces behind a text take one column each. -/
theorem width_append_spaces (t : Text) (n : Nat) :
    width (t ++ List.replicate n ' ') = width t + n := by
  have hnonneg := Width.total_nonneg t
  rw [Width.width_eq, Width.width_eq, Width.total_append, Width.total_spaces, Width.total_add]
  simp only
  omega

theorem width_spaces (n : Nat) : width (List.replicate n ' ') = n := by
  have hwidth := width_append_spaces [] n
  rw [List.nil_append] at hwidth
  exact hwidth.trans (Nat.zero_add n)

end TargetHelp
