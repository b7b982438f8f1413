/-!
# Sets of code points

Properties of characters come as lists of ranges, both ends included.
-/

namespace TargetHelp

/-- A set of code points, as a list of inclusive ranges. -/
abbrev CodePointSet := List (Nat × Nat)

/-- Whether a character lies in one of the ranges. -/
def CodePointSet.has (s : CodePointSet) (c : Char) : Bool :=
  s.any fun r => decide (r.1 ≤ c.toNat) && decide (c.toNat ≤ r.2)

/-- A character is in a set exactly if some range of the set spans it. -/
theorem CodePointSet.has_iff {s : CodePointSet} {c : Char} :
    s.has c = true ↔ ∃ r ∈ s, r.1 ≤ c.toNat ∧ c.toNat ≤ r.2 := by
  simp [CodePointSet.has]

/-- A character is not in two sets whose ranges are apart. -/
theorem CodePointSet.has_eq_false_of_disjoint {s t : CodePointSet}
    (h : ∀ r ∈ s, ∀ q ∈ t, r.2 < q.1 ∨ q.2 < r.1) {c : Char} (hc : s.has c = true) :
    t.has c = false := by
  obtain ⟨r, hr, hle, hge⟩ := has_iff.mp hc
  rw [Bool.eq_false_iff]
  intro ht
  obtain ⟨q, hq, hle', hge'⟩ := has_iff.mp ht
  rcases h r hr q hq with hlt | hlt
  · exact Nat.lt_irrefl _ (Nat.lt_of_le_of_lt (Nat.le_trans hle' hge) hlt)
  · exact Nat.lt_irrefl _ (Nat.lt_of_le_of_lt (Nat.le_trans hle hge') hlt)

end TargetHelp
