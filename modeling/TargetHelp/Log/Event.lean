import TargetHelp.Text.Quoted

/-!
# Log lines

What happens during a run is told by events. An event knows the part of the
program that it comes from, and how serious it is; it is written as one line
with a message and named values. A text whose ends matter is written in quotes,
a text for which they do not matter is written as it is.
-/

namespace TargetHelp

/-- How serious an event is. -/
inductive Severity where
  /-- something is probably not as it should be -/
  | warn
  /-- something for those who look for a mistake -/
  | debug
  deriving DecidableEq, Repr

/-- What happens during a run. -/
inductive Event where
  /-- the build tool is about to be started with this command line -/
  | introspecting (command : Text)
  /-- the quotes of a variable's value do not close -/
  | openQuote (value : Text)
  /-- the build tool did not succeed, and ended like this -/
  | statusIgnored (status : Text)
  /-- waiting for the end of the build tool failed for this reason -/
  | endUnknown (reason : Text)
  /-- the database was read and has this many targets -/
  | databaseRead (targets : Nat)
  /-- the variable that lists the makefiles is not defined -/
  | listUndefined (variableName : Text)
  /-- a makefile was read and has this many entries -/
  | makefileRead (path : Text) (entries : Nat)
  /-- the makefiles together document this many targets -/
  | collected (entries : Nat)
  deriving DecidableEq, Repr

namespace Event

/-- How serious an event is. -/
def severity : Event → Severity
  | .listUndefined _ => .warn
  | _ => .debug

/-- The part of the program that an event comes from. Parts nest, and a double
colon stands between an outer and an inner one. -/
def origin : Event → Text
  | .introspecting _ => "makehelp::make".toList
  | .openQuote _ => "makehelp::vars".toList
  | .statusIgnored _ => "makehelp::make".toList
  | .endUnknown _ => "makehelp::make".toList
  | .databaseRead _ => "makehelp::make".toList
  | .listUndefined _ => "makehelp".toList
  | .makefileRead .. => "makehelp::scan".toList
  | .collected _ => "makehelp".toList

/-- What an event says. -/
def message : Event → Text
  | .introspecting _ => "introspecting build tool".toList
  | .openQuote _ => "value is not shell-splittable, splitting on whitespace".toList
  | .statusIgnored _ => "ignoring build tool exit status".toList
  | .endUnknown _ => "could not wait for build tool".toList
  | .databaseRead _ => "parsed build tool database".toList
  | .listUndefined _ => "variable is not defined, no makefiles to scan".toList
  | .makefileRead .. => "scanned makefile".toList
  | .collected _ => "collected targets".toList

/-- The names and the written values that go with the message. -/
def fields : Event → List (Text × Text)
  | .introspecting command => [("command".toList, command)]
  | .openQuote value =>
    [("value".toList, Text.quoted value), ("error".toList, "missing closing quote".toList)]
  | .statusIgnored status => [("status".toList, status)]
  | .endUnknown reason => [("error".toList, reason)]
  | .databaseRead targets => [("targets".toList, Text.ofNat targets)]
  | .listUndefined variableName => [("variable".toList, Text.quoted variableName)]
  | .makefileRead path entries =>
    [("path".toList, path), ("documented".toList, Text.ofNat entries)]
  | .collected entries => [("documented".toList, Text.ofNat entries)]

end Event

/-! ## Writing events -/

/-- How the parts of a log line are set apart. -/
inductive LogStyle where
  /-- by the terminal's colours and faces -/
  | styled
  /-- not at all -/
  | bare
  deriving DecidableEq, Repr

namespace LogStyle

/-- A text between two control sequences, the second of which ends the first. -/
def face (style : LogStyle) (code : String) (t : Text) : Text :=
  match style with
  | .styled => "\x1b[".toList ++ code.toList ++ 'm' :: t ++ "\x1b[0m".toList
  | .bare => t

/-- The severity that a line begins with, five columns wide. -/
def severity (style : LogStyle) : Severity → Text
  | .warn => style.face "33" " WARN".toList
  | .debug => style.face "34" "DEBUG".toList

/-- A named value. -/
def field (style : LogStyle) (f : Text × Text) : Text :=
  ' ' :: style.face "3" f.1 ++ style.face "2" ['='] ++ f.2

end LogStyle

/-- The line that tells an event. -/
def Event.line (style : LogStyle) (e : Event) : Text :=
  style.severity e.severity ++ ' ' :: e.message ++ e.fields.flatMap style.field ++ ['\n']

end TargetHelp
