import TargetHelp.Text.Basic
import TargetHelp.Text.CodePointSet

/-!
# Blank characters

A character is blank if it has the Unicode property `White_Space`. This one
set decides where names end, where words are cut, and what is trimmed off a
label or off the end of a printed line. It is wider than the set of ASCII
blanks and leaves out the zero-width space and the byte-order mark.
-/

namespace TargetHelp

/-- The code points with the property `White_Space`. -/
def blanks : CodePointSet :=
  [(0x09, 0x0D), (0x20, 0x20), (0x85, 0x85), (0xA0, 0xA0), (0x1680, 0x1680),
   (0x2000, 0x200A), (0x2028, 0x2029), (0x202F, 0x202F), (0x205F, 0x205F), (0x3000, 0x3000)]

/-- A blank character: one with the property `White_Space`. -/
def isBlank (c : Char) : Bool := blanks.has c

namespace Text

/-- A text without the blanks at its start. -/
def trimStart (t : Text) : Text := t.dropWhile isBlank

/-- A text without the blanks at its end. -/
def trimEnd (t : Text) : Text := (t.reverse.dropWhile isBlank).reverse

/-- A text without the blanks at either end. -/
def trim (t : Text) : Text := trimEnd (trimStart t)

/-- The maximal runs of characters that are not blank. -/
def blankWords (t : Text) : List Text := (t.splitOnP isBlank).filter (· ≠ [])

/-- Trimming the end is undone by putting back the blanks that it took. -/
theorem exists_trimEnd_append (t : Text) :
    ∃ blanks, trimEnd t ++ blanks = t ∧ ∀ c ∈ blanks, isBlank c = true := by
  refine ⟨(t.reverse.takeWhile isBlank).reverse, ?_, ?_⟩
  · rw [trimEnd, ← List.reverse_append, List.takeWhile_append_dropWhile, List.reverse_reverse]
  · intro c hc
    exact List.all_eq_true.mp List.all_takeWhile c (List.mem_reverse.mp hc)

end Text

end TargetHelp
