import TargetHelp.Fault
import TargetHelp.Text.Control

/-!
# The command line

Arguments are read from left to right. An option that takes a value may have it
attached (`--file=x`, `-fx`, `-f=x`) or find it in the next argument, unless
that one looks like an option itself. An option is only settled when the next
option comes, or the arguments end: until then a missing value, or a repeated
option, may be passed over by a mistake further right (`Reading.settle`).

The reader ends with the options, with a request for help, or with the first
mistake.
-/

namespace TargetHelp

/-- The options that take a value. -/
inductive ValueOption where
  /-- the build tool -/
  | make
  /-- the directory that the build tool works in -/
  | directory
  /-- the makefile that the build tool reads -/
  | file
  /-- the variable that lists the makefiles -/
  | listVariable
  deriving DecidableEq, Repr

/-- The options that take no value. -/
inductive Switch where
  /-- leaves the header out -/
  | noHeader
  /-- asks for more log lines -/
  | verbose
  /-- asks for help -/
  | help
  deriving DecidableEq, Repr

namespace ValueOption

/-- How an option is shown in messages. -/
def usage : ValueOption → Text
  | .make => "--make <MAKE>".toList
  | .directory => "--directory <DIRECTORY>".toList
  | .file => "--file <FILE>".toList
  | .listVariable => "--list-variable <LIST_VARIABLE>".toList

/-- Whether the value must not be empty: a path never is. -/
def isPath : ValueOption → Bool
  | .make => false
  | .directory => true
  | .file => true
  | .listVariable => false

end ValueOption

namespace Switch

/-- How a switch is shown in messages. -/
def usage : Switch → Text
  | .noHeader => "--no-header".toList
  | .verbose => "--verbose...".toList
  | .help => "--help".toList

end Switch

/-- What a name on the command line stands for. -/
inductive OptionName where
  /-- an option that takes a value -/
  | valued (o : ValueOption)
  /-- one that does not -/
  | switch (s : Switch)
  deriving DecidableEq, Repr

namespace OptionName

/-- The names behind two dashes. -/
def ofLong? (name : Text) : Option OptionName :=
  if name = "make".toList then some (.valued .make)
  else if name = "directory".toList then some (.valued .directory)
  else if name = "file".toList then some (.valued .file)
  else if name = "list-variable".toList then some (.valued .listVariable)
  else if name = "no-header".toList then some (.switch .noHeader)
  else if name = "verbose".toList then some (.switch .verbose)
  else if name = "help".toList then some (.switch .help)
  else none

/-- The letters behind one dash. -/
def ofShort? (c : Char) : Option OptionName :=
  if c = 'C' then some (.valued .directory)
  else if c = 'f' then some (.valued .file)
  else if c = 'v' then some (.switch .verbose)
  else if c = 'h' then some (.switch .help)
  else none

end OptionName

/-- What the options say. -/
structure Options where
  /-- the build tool to start -/
  make : Option Text
  /-- the directory that it works in -/
  directory : Option Text
  /-- the makefile that it reads -/
  file : Option Text
  /-- the variable that lists the makefiles -/
  listVariable : Option Text
  /-- whether the header is left out -/
  noHeader : Bool
  /-- how often more log lines are asked for -/
  verbosity : Nat
  deriving DecidableEq, Repr

/-- Mistakes on a command line. -/
inductive ArgumentError where
  /-- an argument that is no option, or an unknown one -/
  | unexpected (argument : Text)
  /-- an option without its value -/
  | missingValue (o : ValueOption)
  /-- an option that takes a value and is given twice -/
  | repeatedOption (o : ValueOption)
  /-- a switch that is given twice -/
  | repeatedSwitch (s : Switch)
  /-- a value for a switch -/
  | superfluousValue (value : Text) (s : Switch)
  deriving DecidableEq, Repr

namespace ArgumentError

/-- The sentence that a mistake is reported with. What it repeats of the
arguments cannot control a terminal, nor hide what stands behind it. -/
def message : ArgumentError → Text
  | .unexpected argument =>
    "unexpected argument '".toList ++ Text.withoutControl argument ++ "' found".toList
  | .missingValue o =>
    "a value is required for '".toList ++ o.usage ++ "' but none was supplied".toList
  | .repeatedOption o =>
    "the argument '".toList ++ o.usage ++ "' cannot be used multiple times".toList
  | .repeatedSwitch s =>
    "the argument '".toList ++ s.usage ++ "' cannot be used multiple times".toList
  | .superfluousValue value s =>
    "unexpected value '".toList ++ Text.withoutControl value ++ "' for '".toList ++ s.usage ++
      "' found; no more were expected".toList

/-- The report of a mistake. -/
def report (e : ArgumentError) : Text :=
  "error: ".toList ++ e.message ++
    "\n\nUsage: makehelp [OPTIONS]\n\nFor more information, try '--help'.\n".toList

end ArgumentError

namespace Options

/-- No option is given. -/
def initial : Options := ⟨none, none, none, none, false, 0⟩

/-- The value given to an option. -/
def value? (opts : Options) : ValueOption → Option Text
  | .make => opts.make
  | .directory => opts.directory
  | .file => opts.file
  | .listVariable => opts.listVariable

/-- The options with one of them given a value. -/
def set (opts : Options) (o : ValueOption) (value : Text) : Options :=
  match o with
  | .make => { opts with make := some value }
  | .directory => { opts with directory := some value }
  | .file => { opts with file := some value }
  | .listVariable => { opts with listVariable := some value }

/-- Gives an option its value, unless it has one or must not have this one. -/
def give (opts : Options) (o : ValueOption) (value : Text) : Except ArgumentError Options :=
  if (opts.value? o).isSome then .error (.repeatedOption o)
  else if o.isPath ∧ value = [] then .error (.missingValue o)
  else .ok (opts.set o value)

end Options

/-- How the reading of a command line ends, if there is no mistake. -/
inductive Request where
  /-- with options to run with -/
  | run (opts : Options)
  /-- with a request for help -/
  | help
  deriving DecidableEq, Repr

/-- How far the reader has come. -/
structure Reading where
  /-- the options that are settled -/
  settled : Options
  /-- the last option that takes a value, and its value once it was found -/
  pending : Option (ValueOption × Option Text)
  deriving DecidableEq, Repr

namespace Reading

/-- Nothing is read. -/
def initial : Reading := ⟨.initial, none⟩

/-- Settles the last option: it must have a value and be given only once. -/
def settle (r : Reading) : Except ArgumentError Options :=
  match r.pending with
  | none => .ok r.settled
  | some (o, none) => .error (.missingValue o)
  | some (o, some value) => r.settled.give o value

/-- Reads an option whose value is attached. -/
def attach (r : Reading) (o : ValueOption) (value : Text) : Except ArgumentError Reading := do
  let opts ← r.settle
  return ⟨← opts.give o value, none⟩

/-- Reads an option whose value is still to come. -/
def await (r : Reading) (o : ValueOption) : Except ArgumentError Reading := do
  return ⟨← r.settle, some (o, none)⟩

/-- Reads a switch. There is no reading to go on with after a request for
help. -/
def flip (r : Reading) (s : Switch) : Except ArgumentError (Option Reading) := do
  let opts ← r.settle
  match s with
  | .noHeader =>
    if opts.noHeader then throw (.repeatedSwitch .noHeader)
    else return some ⟨{ opts with noHeader := true }, none⟩
  | .verbose => return some ⟨{ opts with verbosity := opts.verbosity + 1 }, none⟩
  | .help => return none

/-- Reads what stands behind two dashes. -/
def long (r : Reading) (t : Text) : Except ArgumentError (Option Reading) :=
  let name := t.takeWhile (· ≠ '=')
  match OptionName.ofLong? name, t.dropWhile (· ≠ '=') with
  | none, _ => throw (.unexpected ('-' :: '-' :: name))
  | some (.valued o), _ :: value => some <$> r.attach o value
  | some (.valued o), [] => some <$> r.await o
  | some (.switch s), _ :: value => throw (.superfluousValue value s)
  | some (.switch s), [] => r.flip s

/-- Reads the letters behind one dash. Behind the letter of an option that
takes a value stands its value, after an equals sign or not. -/
def short (r : Reading) : Text → Except ArgumentError (Option Reading)
  | [] => return some r
  | c :: rest =>
    match OptionName.ofShort? c with
    | none => throw (.unexpected ['-', c])
    | some (.valued o) =>
      match rest with
      | [] => some <$> r.await o
      | '=' :: value => some <$> r.attach o value
      | value => some <$> r.attach o value
    | some (.switch s) => do
      match ← r.flip s with
      | some r => r.short rest
      | none => return none

/-- Reads an argument that is no option: the value that the last option waits
for. -/
def plain (r : Reading) (t : Text) : Except ArgumentError Reading :=
  match r.pending with
  | some (o, none) => return { r with pending := some (o, some t) }
  | _ => throw (.unexpected t)

end Reading

namespace Request

/-- Reads the arguments from here on. Two dashes alone end the options, and no
argument may follow them. -/
def readFrom (r : Reading) : List Text → Except ArgumentError Request
  | [] => return .run (← r.settle)
  | ['-', '-'] :: rest =>
    match rest with
    | [] => return .run (← r.settle)
    | argument :: _ => throw (.unexpected argument)
  | argument :: rest => do
    let next ← match argument with
      | '-' :: '-' :: t => r.long t
      | '-' :: c :: t => r.short (c :: t)
      | t => some <$> r.plain t
    match next with
    | some r => readFrom r rest
    | none => return .help

/-- Reads a command line. -/
def read (args : List Text) : Except ArgumentError Request := readFrom .initial args

end Request

/-! ## Help -/

/-- The help text, which shows the build tool that the environment asks for. A
line break inside its name is followed by as many spaces as the descriptions
are indented. A control sequence that the name leaves open hides what follows
it, up to the name of the next option. -/
def helpText (makeVariable : Option Text) : Text :=
  ("List documented make targets, grouped by category\n\nUsage: makehelp [OPTIONS]\n\nOptions:\n" ++
    "      --make <MAKE>                    Build tool to introspect [env: MAKE=").toList ++
  Text.withoutControl
    (hang 39 (makeVariable.getD [] ++ "] [default: make]".toList) ++ "\n  ".toList) ++
  ("-C, --directory <DIRECTORY>          Run make in this directory; makefile paths are " ++
    "resolved against it\n" ++
    "  -f, --file <FILE>                    Makefile to pass to make with -f\n" ++
    "      --list-variable <LIST_VARIABLE>  Variable listing the makefiles to scan " ++
    "[default: MAKEFILE_LIST]\n" ++
    "      --no-header                      Do not print the usage header\n" ++
    "  -v, --verbose...                     Increase log verbosity (-v debug, -vv trace)\n" ++
    "  -h, --help                           Print help\n").toList

end TargetHelp
