import Std.Data.TreeSet
import TargetHelp.Stream
import TargetHelp.Template
import TargetHelp.Text.Words

/-!
# The build tool's database

Asked for it, the build tool prints everything that it knows. Two kinds of
lines matter: `name := value` defines a variable whose value is a list of
words, and a line that begins with `name:` defines a target. A line may be of
both kinds, and feeds both collections then; every other line is passed over.
-/

namespace TargetHelp

/-- A line that defines a variable. -/
structure Definition where
  /-- the name of the variable -/
  name : Text
  /-- its value, not cut into words yet -/
  value : Text
  deriving DecidableEq, Repr

namespace Definition

/-- Reads a line that defines a variable: a name, blanks, `:=`, blanks and the
value. -/
def read? (line : Text) : Option Definition :=
  match (line.dropWhile (!isNameBreak ·)).dropWhile isBlank with
  | ':' :: '=' :: value =>
    if line.takeWhile (!isNameBreak ·) ≠ [] then
      some ⟨line.takeWhile (!isNameBreak ·), Text.trimStart value⟩
    else none
  | _ => none

end Definition

/-- The characters that end a target's name at the start of a line. -/
def isTargetBreak (c : Char) : Bool := isBlank c || c = ':'

/-- The name of the target that a line defines. Names that begin with a dot
are the build tool's own and do not count. -/
def targetName? (line : Text) : Option Text :=
  match line.takeWhile (!isTargetBreak ·), line.dropWhile (!isTargetBreak ·) with
  | c :: name, ':' :: _ => if c = '.' then none else some (c :: name)
  | _, _ => none

/-- What the build tool knows, as far as it matters for the listing. -/
structure Database where
  /-- the variables with their values -/
  vars : Variables
  /-- the names of the targets -/
  targets : Std.TreeSet Text

namespace Database

/-- Nothing is known. -/
def empty : Database := ⟨.empty, ∅⟩

/-- The database with the variable that a line defines, if it does. -/
def recordVariable (db : Database) (line : Text) : Database :=
  match Definition.read? line with
  | some d => { db with vars := db.vars.insert d.name (Text.words d.value) }
  | none => db

/-- The database with the target that a line defines, if it does. -/
def recordTarget (db : Database) (line : Text) : Database :=
  match targetName? line with
  | some name => { db with targets := db.targets.insert name }
  | none => db

/-- The database with everything that a line defines. -/
def record (db : Database) (line : Text) : Database := (db.recordVariable line).recordTarget line

/-- The database that these lines print. -/
def ofLines (lines : List Text) : Database := lines.foldl record empty

/-- Reads a database from a stream of this name. -/
def read (what : Text) (s : Stream) : Except Failure Database :=
  match s.readLines with
  | .ok lines => .ok (ofLines lines)
  | .error fault => .error (.read what fault)

end Database

end TargetHelp
