import TargetHelp.Text.Cluster

/-!
# Folding long lines

A line that takes too many columns is folded: cut into lines that do not. It is
cut at spaces, which go, and a line is closed as soon as no more than two
columns of it are left. A word that is too wide for a line of its own goes on
behind what is under way, and is cut between clusters.
-/

namespace TargetHelp.Text

/-! ## Lines under way -/

/-- A line under way. -/
structure OpenLine where
  /-- the words of the line, the last first -/
  words : List Text
  /-- the columns that they take, with a space between each two -/
  used : Nat
  deriving DecidableEq, Repr

namespace OpenLine

/-- A line without words. -/
def empty : OpenLine := ⟨[], 0⟩

/-- The text of a line. -/
def text (p : OpenLine) : Text := [' '].intercalate p.words.reverse

/-- The columns that are left for another word. -/
def room (limit : Nat) (p : OpenLine) : Nat :=
  if p.words.isEmpty then limit else limit - p.used - 1

/-- A line with one more word. A word of no characters is not the first of a
line. -/
def add (p : OpenLine) (word : Text) : OpenLine :=
  if p.words.isEmpty then if word.isEmpty then p else ⟨[word], width word⟩
  else ⟨word :: p.words, p.used + 1 + width word⟩

/-- The number of columns that a line may have left when it is closed. -/
def slack : Nat := 2

/-- Closes a line that has little room left: what is finished, and what is
under way. -/
def close (limit : Nat) (p : OpenLine) : List Text × OpenLine :=
  if limit - slack < p.used then ([p.text], empty) else ([], p)

/-- Ends a line, unless it has no words. -/
def flush (p : OpenLine) : List Text := if p.words.isEmpty then [] else [p.text]

/-- Puts a word on lines of its own, as many as it takes. -/
def chop (limit : Nat) (word : Text) : List Text × OpenLine :=
  if width word ≤ limit then (empty.add word).close limit
  else
    match word with
    | [] => ([], empty)
    | c :: rest =>
      let n := fitting 0 limit (c :: rest) - 1
      let (lines, last) := chop limit (rest.drop n)
      ((c :: rest.take n) :: lines, last)
termination_by word.length
decreasing_by
  simp only [List.length_drop, List.length_cons]
  omega

/-- Adds a word to a line: what is finished, and what is under way. -/
def extend (limit : Nat) (p : OpenLine) (word : Text) : List Text × OpenLine :=
  if width word ≤ p.room limit then (p.add word).close limit
  else if width word ≤ limit || p.words.isEmpty || p.room limit ≤ slack then
    let (lines, last) := chop limit word
    (p.flush ++ lines, last)
  else
    let n := fitting 0 (p.room limit) word
    let (lines, last) := chop limit (word.drop n)
    ((p.add (word.take n)).text :: lines, last)

end OpenLine

/-- The lines of a text that is folded to this many columns. A text of nothing
but spaces has none. -/
def fold (limit : Nat) (t : Text) : List Text :=
  let (lines, last) := (t.splitOn ' ').foldl
    (fun (lines, last) word =>
      let (more, last) := last.extend limit word
      (lines ++ more, last))
    ([], OpenLine.empty)
  lines ++ last.flush

end TargetHelp.Text
