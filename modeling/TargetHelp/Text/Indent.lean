import TargetHelp.Text.Basic

/-!
# Indentation

The first line of a block decides how far the block is indented. Every line
that is indented at least as far loses that much; the others stay as they are.
-/

namespace TargetHelp.Text

/-- The number of spaces at the start of a line. Only the space character
counts, not the other blanks. -/
def leadingSpaces (line : Text) : Nat := (line.takeWhile (· = ' ')).length

/-- A line without its first `n` characters, if these are all spaces. -/
def dropIndent (n : Nat) (line : Text) : Text :=
  if n ≤ leadingSpaces line then line.drop n else line

/-- Removes the indentation of the first line from every line. -/
def unindent : List Text → List Text
  | [] => []
  | first :: rest => (first :: rest).map (dropIndent (leadingSpaces first))

end TargetHelp.Text
