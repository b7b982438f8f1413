import Std.Data.TreeMap
import TargetHelp.Annotation
import TargetHelp.Table

/-!
# The listing

Documented targets are listed under their categories. Categories come in
ascending order, the empty one first; the targets of a category are ordered by
name, and entries of equal names keep their order. Each category stands left of
its first target and is followed by one empty line.
-/

namespace TargetHelp

/-- The entries of one category. -/
structure Section where
  /-- the category -/
  category : Text
  /-- its entries, ordered by name -/
  entries : List Entry
  deriving DecidableEq, Repr

namespace Entry

/-- Whether an entry may stand before another of the same category. -/
def nameLE (a b : Entry) : Bool := (compare a.name b.name).isLE

/-- One entry more under its category, behind those that are there. -/
def collect (byCategory : Std.TreeMap Text (List Entry)) (e : Entry) :
    Std.TreeMap Text (List Entry) :=
  byCategory.alter e.category fun there? => some (there?.getD [] ++ [e])

/-- The entries under their categories. They are put there as they come, and
ordered when all have come. -/
def sections (entries : List Entry) : List Section :=
  (entries.foldl collect ∅).toList.map fun p => ⟨p.1, p.2.mergeSort nameLE⟩

/-- The cells that show an entry: its name, and its usage text with references
replaced by first values. -/
def cells (vars : Variables) (e : Entry) : Row :=
  [⟨.green, e.name⟩, ⟨.plain, vars.replace e.usage⟩]

end Entry

namespace Section

/-- The rows of a section: its entries, the first one behind the category, and
an empty row. -/
def rows (vars : Variables) (s : Section) : List Row :=
  match s.entries with
  | [] => [[⟨.blue, s.category⟩]]
  | first :: rest =>
    (⟨.blue, s.category⟩ :: first.cells vars) :: rest.map (·.cells vars) ++ [[]]

end Section

namespace Listing

/-- The least number of columns. Only the first row of a section has a
category, so this leaves an empty column on the left. -/
def columns : Nat := 4

/-- The text above the listing. -/
def header : Text :=
  ("Usage: make [targets]\n\nFor more information on make see https://www.gnu.org/software/make/" ++
    "manual/make.html\n\nAvailable targets are listed below:\n\n").toList

/-- The rows of all sections. -/
def rows (vars : Variables) (sections : List Section) : List Row :=
  sections.flatMap (·.rows vars)

/-- The sections as a table. -/
def render (palette : Palette) (vars : Variables) (sections : List Section) : Text :=
  Table.render palette columns (rows vars sections)

/-- Writes the sections as a table to a sink. -/
def write (palette : Palette) (sink : Sink) (vars : Variables) (sections : List Section) :
    Except Fault Text :=
  Table.write palette sink columns (rows vars sections)

end Listing

end TargetHelp
