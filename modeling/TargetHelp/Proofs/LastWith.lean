import Mathlib.Data.List.Induction

/-!
# The last of its kind

Where a later definition takes the place of an earlier one, what counts is the
last element of a list that has some property (`IsLastWith`). What is built
element by element is followed by `isLastWith_concat`: one more element is the
last if it has the property, and changes nothing if it does not.
-/

namespace TargetHelp

variable {α β : Type*} {p : α → Prop} {l : List α} {a x : α}

/-- An element of a list is the last one with some property. -/
def IsLastWith (p : α → Prop) (l : List α) (a : α) : Prop :=
  p a ∧ ∃ above below, l = above ++ a :: below ∧ ∀ b ∈ below, ¬ p b

theorem not_isLastWith_nil : ¬ IsLastWith p [] a := by
  rintro ⟨-, above, below, h, -⟩
  exact List.append_ne_nil_of_right_ne_nil above (List.cons_ne_nil a below) h.symm

/-- With one more element at the end, that one is the last if it has the
property, and nothing changes if it does not. -/
theorem isLastWith_concat :
    IsLastWith p (l ++ [x]) a ↔ a = x ∧ p x ∨ ¬ p x ∧ IsLastWith p l a := by
  refine ⟨?_, ?_⟩
  · rintro ⟨ha, above, below, h, hbelow⟩
    rcases List.eq_nil_or_concat below with rfl | ⟨below, y, rfl⟩
    · left
      obtain rfl : x = a := (List.cons.inj (List.append_inj' h rfl).2).1
      exact ⟨rfl, ha⟩
    · right
      rw [List.concat_eq_append, ← List.cons_append, ← List.append_assoc] at h
      obtain ⟨hl, hx⟩ := List.append_inj' h rfl
      obtain rfl := (List.cons.inj hx).1
      exact ⟨hbelow x (by simp), ha, above, below, hl, fun b hb => hbelow b (by simp [hb])⟩
  · rintro (⟨rfl, ha⟩ | ⟨hx, ha, above, below, rfl, hbelow⟩)
    · exact ⟨ha, l, [], rfl, fun _ h => absurd h List.not_mem_nil⟩
    · refine ⟨ha, above, below ++ [x], by simp, fun b hb => ?_⟩
      rcases List.mem_append.mp hb with hb | hb
      · exact hbelow b hb
      · rwa [List.mem_singleton.mp hb]

theorem IsLastWith.mem (h : IsLastWith p l a) : a ∈ l := by
  obtain ⟨-, above, below, rfl, -⟩ := h
  exact List.mem_append_right _ (List.mem_cons_self ..)

/-- If an element has the property, one is the last that has. -/
theorem exists_isLastWith (h : ∃ a ∈ l, p a) : ∃ a, IsLastWith p l a := by
  induction l using List.reverseRecOn with
  | nil => exact absurd h (by simp)
  | append_singleton l x ih =>
    by_cases hx : p x
    · exact ⟨x, isLastWith_concat.mpr (.inl ⟨rfl, hx⟩)⟩
    · obtain ⟨a, ha, hpa⟩ := h
      rcases List.mem_append.mp ha with ha | ha
      · obtain ⟨b, hb⟩ := ih ⟨a, ha, hpa⟩
        exact ⟨b, isLastWith_concat.mpr (.inr ⟨hx, hb⟩)⟩
      · rw [List.mem_singleton.mp ha] at hpa
        exact absurd hpa hx

/-- The last of its kind is found in a list as in what a function makes of it. -/
theorem isLastWith_map {f : α → β} {p : β → Prop} {b : β} :
    IsLastWith p (l.map f) b ↔ ∃ a, f a = b ∧ IsLastWith (fun a => p (f a)) l a := by
  induction l using List.reverseRecOn with
  | nil => simp [not_isLastWith_nil]
  | append_singleton l x ih =>
    rw [List.map_append, List.map_singleton, isLastWith_concat, ih]
    refine ⟨?_, ?_⟩
    · rintro (⟨rfl, hx⟩ | ⟨hx, a, ha, hlast⟩)
      · exact ⟨x, rfl, isLastWith_concat.mpr (.inl ⟨rfl, hx⟩)⟩
      · exact ⟨a, ha, isLastWith_concat.mpr (.inr ⟨hx, hlast⟩)⟩
    · rintro ⟨a, rfl, hlast⟩
      rcases isLastWith_concat.mp hlast with ⟨rfl, hx⟩ | ⟨hx, hlast⟩
      · exact .inl ⟨rfl, hx⟩
      · exact .inr ⟨hx, a, rfl, hlast⟩

end TargetHelp
