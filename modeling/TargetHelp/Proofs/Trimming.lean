import Mathlib.Data.List.Basic
import TargetHelp.Text.Blank

/-!
# What trimming leaves

A trimmed text has no blank at either end (`Text.isTrimmed_trim`), and trimming
adds nothing. Blanks that are put behind a text do not matter to what is left of
its end (`Text.trimEnd_append_of_isBlank`).
-/

namespace TargetHelp.Text

/-- A text has no blank at either end. -/
structure IsTrimmed (t : Text) : Prop where
  /-- it begins with none -/
  head : ∀ c ∈ t.head?, isBlank c = false
  /-- it ends in none -/
  getLast : ∀ c ∈ t.getLast?, isBlank c = false

theorem isTrimmed_nil : IsTrimmed [] := ⟨by simp, by simp⟩

/-- What is left by dropping blanks does not begin with one. -/
theorem not_isBlank_of_mem_head? {t : Text} {c : Char} (h : c ∈ (t.dropWhile isBlank).head?) :
    isBlank c = false := by
  have hnot := List.head?_dropWhile_not isBlank t
  rw [Option.mem_def.mp h] at hnot
  exact hnot

/-- A trimmed text does not end in a blank. -/
theorem not_isBlank_of_mem_getLast? {t : Text} {c : Char} (h : c ∈ (trim t).getLast?) :
    isBlank c = false := by
  rw [trim, trimEnd, List.getLast?_reverse] at h
  exact not_isBlank_of_mem_head? h

theorem isTrimmed_trim (t : Text) : (trim t).IsTrimmed := by
  refine ⟨fun c hc => ?_, fun c hc => not_isBlank_of_mem_getLast? hc⟩
  obtain ⟨blanks, hblanks, -⟩ := exists_trimEnd_append (trimStart t)
  -- a trimmed text is the beginning of what its end was trimmed off
  have hstart : c ∈ (trimStart t).head? := by
    rw [← hblanks]
    exact List.mem_head?_append_of_mem_head? hc
  exact not_isBlank_of_mem_head? hstart

/-- Trimming adds nothing. -/
theorem mem_of_mem_trimEnd {t : Text} {c : Char} (h : c ∈ trimEnd t) : c ∈ t := by
  obtain ⟨blanks, hblanks, -⟩ := exists_trimEnd_append t
  rw [← hblanks]
  exact List.mem_append_left blanks h

theorem mem_of_mem_trim {t : Text} {c : Char} (h : c ∈ trim t) : c ∈ t :=
  List.dropWhile_subset isBlank (mem_of_mem_trimEnd h)

/-- Blanks at the end of a text are trimmed off. -/
theorem trimEnd_append_of_isBlank (t : Text) {blanks : Text}
    (h : ∀ c ∈ blanks, isBlank c = true) : trimEnd (t ++ blanks) = trimEnd t := by
  rw [trimEnd, List.reverse_append,
    List.dropWhile_append_of_pos fun c hc => h c (List.mem_reverse.mp hc)]
  rfl

/-- A text that does not end in a blank is trimmed already. -/
theorem trimEnd_concat {c : Char} (h : isBlank c = false) (t : Text) :
    trimEnd (t ++ [c]) = t ++ [c] := by
  rw [trimEnd, List.reverse_append, List.reverse_singleton, List.singleton_append,
    List.dropWhile_cons_of_neg (Bool.eq_false_iff.mp h), List.reverse_cons, List.reverse_reverse]

end TargetHelp.Text
