import TargetHelp.Database
import TargetHelp.Text.Indent

/-!
# Annotations in makefiles

A target is documented by the comment block right above the line that defines
it:

    ## @category Build
    ## Build the binary for every $(ARCHS)
    build-$(ARCHS): deps

Lines that begin with `##` collect the usage text, the one with `@category`
names the category, and lines about phony targets may stand in between. Any
other line closes the block: if it defines a target, and there is usage text,
the block documents every name that the target's name expands to and that the
build tool knows. Nothing is carried over into the next block.
-/

namespace TargetHelp

/-- A documented target. -/
structure Entry where
  /-- the name of the target -/
  name : Text
  /-- the category that it is listed under, empty if none is named -/
  category : Text
  /-- the usage text, of one or more lines -/
  usage : Text
  deriving DecidableEq, Repr

/-- What a line of a makefile is to the annotations around it. -/
inductive Mark where
  /-- names the category of the block -/
  | category (label : Text)
  /-- adds a line to the usage text of the block -/
  | usage (line : Text)
  /-- leaves the block as it is -/
  | phony
  /-- ends the block, and may define a target -/
  | closing (target : Option Text)
  deriving DecidableEq, Repr

namespace Mark

/-- What begins a line that names a category. -/
def categorySign : Text :=
  ['#', '#', ' ', '@', 'c', 'a', 't', 'e', 'g', 'o', 'r', 'y']

/-- What begins a line of usage text. -/
def usageSign : Text := ['#', '#']

/-- What begins a line about phony targets. -/
def phonySign : Text := ['.', 'P', 'H', 'O', 'N', 'Y']

/-- What a line is. The first sign that fits decides. -/
def ofLine (line : Text) : Mark :=
  match categorySign.isPrefixOf? line with
  | some label => .category (Text.trim label)
  | none =>
    match usageSign.isPrefixOf? line with
    | some text => .usage text
    | none => if phonySign.isPrefixOf line then .phony else .closing (targetName? line)

end Mark

/-- The annotations collected since the last closing line. -/
structure Block where
  /-- the category named last, empty if none is named -/
  category : Text
  /-- the usage lines, in order -/
  usage : List Text
  deriving DecidableEq, Repr

namespace Block

/-- Nothing is collected. -/
def empty : Block := ⟨[], []⟩

/-- The block after one more line. -/
def next (block : Block) : Mark → Block
  | .category label => { block with category := label }
  | .usage line => { block with usage := block.usage ++ [line] }
  | .phony => block
  | .closing _ => empty

/-- The entries of a block above a target: one for each expansion of the
target's name that the build tool knows. -/
def document (db : Database) (block : Block) (target : Text) : List Entry :=
  ((db.vars.expand target).filter (db.targets.contains ·)).map fun name =>
    ⟨name, block.category, Text.unlines (Text.unindent block.usage)⟩

/-- The entries that a line gives to the block above it. -/
def entries (db : Database) (block : Block) : Mark → List Entry
  | .closing (some target) => if block.usage.isEmpty then [] else block.document db target
  | _ => []

end Block

namespace Entry

/-- The entries of these lines, below a block. -/
def ofMarks (db : Database) : Block → List Mark → List Entry
  | _, [] => []
  | block, m :: marks => block.entries db m ++ ofMarks db (block.next m) marks

/-- The entries that the lines of a makefile document. -/
def ofLines (db : Database) (lines : List Text) : List Entry :=
  ofMarks db .empty (lines.map Mark.ofLine)

/-- Reads the entries of a makefile from a stream of this name. -/
def read (db : Database) (what : Text) (s : Stream) : Except Failure (List Entry) :=
  match s.readLines with
  | .ok lines => .ok (ofLines db lines)
  | .error fault => .error (.read what fault)

end Entry

end TargetHelp
