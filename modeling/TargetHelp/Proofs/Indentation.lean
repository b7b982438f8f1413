import Mathlib.Data.List.Forall2
import Mathlib.Data.List.TakeWhile
import TargetHelp.Text.Indent

/-!
# Removing indentation

The spaces at the start of the first line are taken off every line that begins
with as many (`Text.unindent_exact`). A line is indented as far as `n` if it
begins with `n` spaces (`Text.le_leadingSpaces_iff`); such a line loses exactly
these, and any other line loses nothing.

What is left has a first line without indentation, so there is nothing more to
remove (`Text.unindent_of_head?`). And how far the block as a whole is indented
does not matter: all of its lines lose what they have in front together
(`Text.unindent_map_indent`).
-/

namespace TargetHelp.Text

/-- This many spaces. -/
def indent (n : Nat) : Text := List.replicate n ' '

/-- A line begins with this many spaces, and not with more. -/
def IndentedBy (n : Nat) (line : Text) : Prop :=
  ∃ rest, line = indent n ++ rest ∧ rest.head? ≠ some ' '

/-! ## One line -/

theorem leadingSpaces_space_cons (line : Text) :
    leadingSpaces (' ' :: line) = leadingSpaces line + 1 := by
  rw [leadingSpaces, List.takeWhile_cons_of_pos (by decide)]
  rfl

theorem leadingSpaces_of_head? {line : Text} (h : line.head? ≠ some ' ') :
    leadingSpaces line = 0 := by
  cases line with
  | nil => rfl
  | cons c line =>
    have hc : c ≠ ' ' := fun hc => h (congrArg some hc)
    rw [leadingSpaces, List.takeWhile_cons_of_neg (by simpa using hc)]
    rfl

theorem leadingSpaces_indent_append (n : Nat) (line : Text) :
    leadingSpaces (indent n ++ line) = n + leadingSpaces line := by
  induction n with
  | zero => exact (Nat.zero_add _).symm
  | succ n ih =>
    have hcons : indent (n + 1) ++ line = ' ' :: (indent n ++ line) := rfl
    rw [hcons, leadingSpaces_space_cons, ih]
    omega

/-- What a line is indented by is the number of its leading spaces. -/
theorem IndentedBy.leadingSpaces_eq {n : Nat} {line : Text} (h : IndentedBy n line) :
    leadingSpaces line = n := by
  obtain ⟨rest, rfl, hrest⟩ := h
  rw [leadingSpaces_indent_append, leadingSpaces_of_head? hrest, Nat.add_zero]

theorem takeWhile_eq_indent (line : Text) :
    line.takeWhile (· = ' ') = indent (leadingSpaces line) := by
  refine List.eq_replicate_iff.mpr ⟨rfl, fun c hc => ?_⟩
  simpa using List.mem_takeWhile_imp hc

/-- A line has at least `n` leading spaces exactly if it begins with `n`
spaces. -/
theorem le_leadingSpaces_iff {n : Nat} {line : Text} :
    n ≤ leadingSpaces line ↔ indent n <+: line := by
  constructor
  · intro h
    have hline : indent (leadingSpaces line) <+: line := by
      rw [← takeWhile_eq_indent]
      exact List.takeWhile_prefix _
    refine List.IsPrefix.trans ⟨indent (leadingSpaces line - n), ?_⟩ hline
    rw [indent, indent, ← List.replicate_add, Nat.add_sub_cancel' h, indent]
  · rintro ⟨rest, rfl⟩
    rw [leadingSpaces_indent_append]
    exact Nat.le_add_right ..

/-- A line that begins with `n` spaces loses these. -/
@[simp] theorem dropIndent_indent_append (n : Nat) (rest : Text) :
    dropIndent n (indent n ++ rest) = rest := by
  rw [dropIndent, if_pos (le_leadingSpaces_iff.mpr (List.prefix_append _ _))]
  exact List.drop_left' List.length_replicate

/-- Any other line stays as it is. -/
theorem dropIndent_of_not_prefix {n : Nat} {line : Text} (h : ¬ indent n <+: line) :
    dropIndent n line = line :=
  if_neg fun hle => h (le_leadingSpaces_iff.mp hle)

@[simp] theorem dropIndent_zero (line : Text) : dropIndent 0 line = line :=
  dropIndent_indent_append 0 line

/-- The first line of a block loses all its spaces. -/
theorem dropIndent_leadingSpaces (line : Text) :
    dropIndent (leadingSpaces line) line = line.dropWhile (· = ' ') := by
  have hline : line = indent (leadingSpaces line) ++ line.dropWhile (· = ' ') := by
    rw [← takeWhile_eq_indent, List.takeWhile_append_dropWhile]
  conv_lhs => arg 2; rw [hline]
  exact dropIndent_indent_append _ _

/-- Where all lines are put further in, as much more is dropped of each. -/
theorem dropIndent_add_indent_append {n : Nat} (k : Nat) {line : Text} (h : indent n <+: line) :
    dropIndent (k + n) (indent k ++ line) = dropIndent n line := by
  obtain ⟨rest, rfl⟩ := h
  have hindent : indent k ++ (indent n ++ rest) = indent (k + n) ++ rest := by
    rw [← List.append_assoc, indent, indent, ← List.replicate_add, indent]
  rw [hindent, dropIndent_indent_append, dropIndent_indent_append]

/-! ## A block of lines -/

theorem unindent_cons (first : Text) (rest : List Text) :
    unindent (first :: rest) = (first :: rest).map (dropIndent (leadingSpaces first)) := rfl

/-- A block stays as it is if its first line is not indented. -/
theorem unindent_of_head? {ls : List Text} (h : ∀ first ∈ ls.head?, first.head? ≠ some ' ') :
    unindent ls = ls := by
  cases ls with
  | nil => rfl
  | cons first rest =>
    rw [unindent_cons, leadingSpaces_of_head? (h first rfl), List.map_congr_left fun line _ =>
      dropIndent_zero line, List.map_id']

/-- What is left of a block has a first line that is not indented. -/
theorem head?_of_mem_head?_unindent {ls : List Text} {first : Text}
    (h : first ∈ (unindent ls).head?) : first.head? ≠ some ' ' := by
  cases ls with
  | nil => cases h
  | cons line rest =>
    have hnot := List.head?_dropWhile_not (· = ' ') line
    obtain rfl := Option.some.inj h
    rw [dropIndent_leadingSpaces]
    intro hspace
    rw [hspace] at hnot
    cases hnot

/-- A block that is indented as a whole is what it is further out. -/
theorem unindent_map_indent {n : Nat} {ls : List Text}
    (hfirst : ∀ first ∈ ls.head?, IndentedBy n first) (h : ∀ line ∈ ls, indent n <+: line)
    (k : Nat) :
    unindent (ls.map (indent k ++ ·)) = unindent ls := by
  cases ls with
  | nil => rfl
  | cons first rest =>
    rw [List.map_cons, unindent_cons, unindent_cons, leadingSpaces_indent_append,
      (hfirst first rfl).leadingSpaces_eq, ← List.map_cons, List.map_map]
    exact List.map_congr_left fun line hline => dropIndent_add_indent_append k (h line hline)

/-- **The indentation of the first line is removed, and nothing else.** If the
first line begins with `n` spaces and not with more, the block keeps its lines in
their order; of those that begin with `n` spaces, what stands behind is left, and
the others stay as they are. Doing it twice is doing it once. And if all lines
begin with at least `n` spaces, it does not matter how much further in the whole
block stands. -/
theorem unindent_exact {n : Nat} {ls : List Text}
    (hfirst : ∀ first ∈ ls.head?, IndentedBy n first) :
    List.Forall₂ (fun line line' =>
        (∀ rest, line = indent n ++ rest → line' = rest) ∧ (¬ indent n <+: line → line' = line))
      ls (unindent ls) ∧
    unindent (unindent ls) = unindent ls ∧
    ∀ k, (∀ line ∈ ls, indent n <+: line) → unindent (ls.map (indent k ++ ·)) = unindent ls := by
  refine ⟨?_, unindent_of_head? fun first => head?_of_mem_head?_unindent,
    fun k h => unindent_map_indent hfirst h k⟩
  cases ls with
  | nil => exact .nil
  | cons first rest =>
    rw [unindent_cons, (hfirst first rfl).leadingSpaces_eq, List.forall₂_map_right_iff,
      List.forall₂_same]
    intro line _
    refine ⟨?_, dropIndent_of_not_prefix⟩
    rintro rest rfl
    exact dropIndent_indent_append n rest

/-- A line that is deeper, and one that is not deep enough; and the deep ones put
further in. -/
theorem unindent_exact_deepAndShallow :
    (∀ first ∈ ["  a".toList, "   b".toList, " c".toList].head?, IndentedBy 2 first) ∧
      unindent ["  a".toList, "   b".toList, " c".toList] =
        ["a".toList, " b".toList, " c".toList] ∧
      unindent ["a".toList, " b".toList, " c".toList] = ["a".toList, " b".toList, " c".toList] ∧
      unindent ["     a".toList, "      b".toList] = unindent ["  a".toList, "   b".toList] := by
  have hindented : IndentedBy 2 "  a".toList := ⟨['a'], rfl, by decide⟩
  have hfirst : ∀ first ∈ ["  a".toList, "   b".toList, " c".toList].head?,
      IndentedBy 2 first := by
    intro first hmem
    exact Option.some.inj hmem ▸ hindented
  have hdeep : ∀ first ∈ ["  a".toList, "   b".toList].head?, IndentedBy 2 first := by
    intro first hmem
    exact Option.some.inj hmem ▸ hindented
  have hunindent : unindent ["  a".toList, "   b".toList, " c".toList] =
      ["a".toList, " b".toList, " c".toList] := by decide
  obtain ⟨-, hagain, -⟩ := unindent_exact hfirst
  obtain ⟨-, -, hfurther⟩ := unindent_exact hdeep
  refine ⟨hfirst, hunindent, ?_, hfurther 3 ?_⟩
  · rw [hunindent] at hagain
    exact hagain
  · intro line hline
    rcases List.mem_pair.mp hline with rfl | rfl
    · exact ⟨"a".toList, rfl⟩
    · exact ⟨" b".toList, rfl⟩

end TargetHelp.Text
