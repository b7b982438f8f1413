import TargetHelp.CommandLine
import TargetHelp.Listing
import TargetHelp.Log.Filter
import TargetHelp.Machine

/-!
# The whole program

A run asks the build tool for its database, scans every makefile that one of
its variables lists, keeps the last entry of every documented target, and
prints the listing. What the program sees of the outside is a `World`, and what
the outside sees of the program is an `Outcome`.

Nothing is printed before everything is known, so a run that fails prints no
part of a listing. What the log says depends on the filter; nothing else does.
-/

namespace TargetHelp

/-! ## Starting the build tool -/

/-- How the build tool is started. -/
structure Invocation where
  /-- the build tool -/
  program : Text
  /-- the directory that it is told to work in -/
  directory : Option Text
  /-- the makefile that it is told to read -/
  file : Option Text
  deriving DecidableEq, Repr

namespace Invocation

/-- Asks for the database, and for nothing to be built. -/
def databaseFlags : Text := ['-', 'p', 'R', 'r', 'q']

/-- The arguments that the build tool gets. -/
def arguments (inv : Invocation) : List Text :=
  [databaseFlags] ++ (inv.directory.map fun d => [['-', 'C'], d]).getD [] ++
    (inv.file.map fun f => [['-', 'f'], f]).getD []

/-- The command line as it is shown. -/
def display (inv : Invocation) : Text :=
  inv.program ++ ' ' :: databaseFlags ++ (inv.directory.map fun d => " -C ".toList ++ d).getD [] ++
    (inv.file.map fun f => " -f ".toList ++ f).getD []

/-- The name of what the build tool prints. -/
def outputName (inv : Invocation) : Text := "output of '".toList ++ inv.display ++ ['\'']

/-- The invocation that the options and the environment ask for. -/
def ofOptions (makeVariable : Option Text) (opts : Options) : Invocation :=
  ⟨(opts.make <|> makeVariable).getD ['m', 'a', 'k', 'e'], opts.directory, opts.file⟩

end Invocation

/-! ## What a run sees and what is seen of it -/

/-- What the program sees of the outside. -/
structure World where
  /-- the arguments -/
  args : List Text
  /-- the build tool that the environment asks for -/
  makeVariable : Option Text
  /-- the log filter that the environment asks for -/
  logVariable : Option Text
  /-- a wish for output without colours, if it is not empty -/
  noColorVariable : Option Text
  /-- starts the build tool -/
  start : Invocation → Except Fault ToolRun
  /-- opens a file -/
  openFile : Text → Except Fault Stream
  /-- where the listing goes -/
  output : Sink

/-- What the outside sees of a run. -/
structure Outcome where
  /-- the exit code -/
  code : Nat
  /-- what was printed -/
  stdout : Text
  /-- what was told about the run -/
  stderr : Text
  /-- the arguments that the build tool got, if it was started -/
  toolArguments : Option (List Text)
  deriving DecidableEq, Repr

/-- Why a run was given up: what it was about, and the failure behind that. -/
structure Abort where
  /-- what the run was about -/
  outermost : Text
  /-- the causes, from the outermost to the innermost -/
  causes : List Text
  deriving DecidableEq, Repr

/-- The report of a run that was given up. -/
def Abort.report (a : Abort) : Text := TargetHelp.report a.outermost a.causes

/-- A piece of a run: what happened on the way, and how it ended. -/
structure Traced (α : Type) where
  /-- what happened, in order -/
  events : List Event
  /-- the result, unless the run was given up -/
  result : Except Abort α

namespace Traced

/-- A piece of a run in which nothing happens. -/
def pure {α : Type} (a : α) : Traced α := ⟨[], .ok a⟩

/-- A piece of a run followed by another, unless the run is given up. -/
def bind {α β : Type} (x : Traced α) (f : α → Traced β) : Traced β :=
  match x.result with
  | .ok a => ⟨x.events ++ (f a).events, (f a).result⟩
  | .error abort => ⟨x.events, .error abort⟩

instance : Monad Traced where
  pure := pure
  bind := bind

/-- Something happens. -/
def tell (events : List Event) : Traced Unit := ⟨events, .ok ()⟩

/-- The run is given up. -/
def giveUp {α : Type} (outermost : Text) (failure : Failure) : Traced α :=
  ⟨[], .error ⟨outermost, failure.chain⟩⟩

end Traced

/-! ## What a run finds -/

/-- What is told about the end of a program. That it succeeded is not told. -/
def ToolEnd.events : ToolEnd → List Event
  | .exited status =>
    if status = 0 then [] else [.statusIgnored ("exit status: ".toList ++ Text.ofNat status.toNat)]
  | .signaled number kept =>
    [.statusIgnored ("signal: ".toList ++ signalText number ++
      if kept then " (core dumped)".toList else [])]
  | .unknown fault => [.endUnknown fault.message]

namespace Database

/-- The values whose quotes stay open, in the order of their lines. -/
def openQuotes (lines : List Text) : List Text :=
  (lines.filterMap Definition.read?).filterMap fun d =>
    if (Text.quotedWords? d.value).isNone then some d.value else none

end Database

namespace Entry

/-- The last entry of every name, in the order of the names. -/
def latest (entries : List Entry) : List Entry :=
  (entries.foldl (fun byName e => byName.insert e.name e)
    (∅ : Std.TreeMap Text Entry)).values

end Entry

/-- The path of a listed makefile: relative to the directory, if there is one
and the path is not absolute. -/
def makefilePath (directory : Option Text) (file : Text) : Text :=
  match directory with
  | none => file
  | some dir =>
    if file.head? = some '/' then file
    else if dir = [] || dir.getLast? = some '/' then dir ++ file
    else dir ++ '/' :: file

/-- The variable that lists the makefiles. -/
def Options.listName (opts : Options) : Text := opts.listVariable.getD "MAKEFILE_LIST".toList

/-- The paths of the makefiles to scan, in the order in which they are listed,
if the variable that lists them is defined. -/
def Database.makefilePaths? (db : Database) (opts : Options) : Option (List Text) :=
  (db.vars.get? opts.listName).map (·.map (makefilePath opts.directory))

/-- What a run finds: the variables, and the sections to be listed. -/
structure Findings where
  /-- the variables -/
  vars : Variables
  /-- the sections -/
  sections : List Section

namespace World

/-- Asks the build tool for its database, and waits for its end. How it ends does
not matter: its status also tells whether anything is out of date. If what it
prints does not arrive, it is killed and the run is given up. -/
def readDatabase (w : World) (inv : Invocation) : Traced Database := do
  Traced.tell [.introspecting inv.display]
  match w.start inv with
  | .error fault =>
    Traced.giveUp "failed to read the make database".toList (.launch inv.display fault)
  | .ok tool => do
    Traced.tell ((Database.openQuotes tool.output.lines).map .openQuote)
    match Database.read inv.outputName tool.output with
    | .error failure => do
      Traced.tell tool.killed.events
      Traced.giveUp "failed to read the make database".toList failure
    | .ok db => do
      Traced.tell tool.ended.events
      Traced.tell [.databaseRead db.targets.size]
      return db

/-- Scans one makefile. -/
def scanMakefile (w : World) (db : Database) (path : Text) : Traced (List Entry) :=
  let found := (w.openFile path).mapError (Failure.openFile path) >>= Entry.read db path
  match found with
  | .ok entries => do
    Traced.tell [.makefileRead path entries.length]
    return entries
  | .error failure => Traced.giveUp ("failed to scan ".toList ++ path) failure

/-- Scans these makefiles one after the other, up to the first that cannot be
read. -/
def scanMakefiles (w : World) (db : Database) : List Text → Traced (List Entry)
  | [] => return []
  | path :: paths => do
    let found ← w.scanMakefile db path
    return found ++ (← w.scanMakefiles db paths)

/-- The last entry of every target that a listed makefile documents. -/
def collect (w : World) (db : Database) (opts : Options) : Traced (List Entry) :=
  match db.makefilePaths? opts with
  | none => do
    Traced.tell [.listUndefined opts.listName]
    return []
  | some paths => return Entry.latest (← w.scanMakefiles db paths)

/-- Whether output keeps its colours. -/
def isColored (w : World) : Bool := (w.noColorVariable.getD []).isEmpty

/-- The palette of the listing. -/
def palette (w : World) : Palette := if w.isColored then .colored else .colorless

/-- What a run with these options finds. -/
def findings (w : World) (opts : Options) : Traced Findings := do
  let db ← w.readDatabase (.ofOptions w.makeVariable opts)
  let entries ← w.collect db opts
  Traced.tell [.collected entries.length]
  return ⟨db.vars, Entry.sections entries⟩

/-- Writes the header, unless it is to be left out. -/
def writeHeader (w : World) (opts : Options) : Except Fault Text :=
  if opts.noHeader then .ok [] else w.output.write Listing.header

/-- Writes what a run found: the header, and then the sections as a table. -/
def print (w : World) (opts : Options) (found : Findings) : Except Fault Text := do
  let header ← w.writeHeader opts
  let listing ← Listing.write w.palette w.output found.vars found.sections
  return header ++ listing

/-- The log lines of these events. -/
def log (w : World) (opts : Options) (events : List Event) : Text :=
  logText (if w.isColored then .styled else .bare)
    (Filter.choose w.logVariable opts.verbosity) events

/-- A run with these options. What it writes arrives only if all of it does. -/
def runWith (w : World) (opts : Options) : Outcome :=
  let found := w.findings opts
  let inv := Invocation.ofOptions w.makeVariable opts
  let log := w.log opts found.events
  let toolArguments := (w.start inv).toOption.map fun _ => inv.arguments
  match found.result with
  | .error abort => ⟨1, [], log ++ abort.report, toolArguments⟩
  | .ok findings =>
    match w.print opts findings with
    | .ok printed => ⟨0, printed, log, toolArguments⟩
    | .error fault =>
      ⟨1, [], log ++ report "failed to write to stdout".toList [fault.message], toolArguments⟩

/-- A run. A request for help succeeds even if the help text is lost. -/
def run (w : World) : Outcome :=
  match Request.read w.args with
  | .error mistake => ⟨2, [], mistake.report, none⟩
  | .ok .help => ⟨0, (w.output.deliver (helpText w.makeVariable)).toOption.getD [], [], none⟩
  | .ok (.run opts) => w.runWith opts

/-- The world of a machine. -/
def ofMachine (m : Machine) (args : List Text)
    (makeVariable logVariable noColorVariable : Option Text) (output : Sink) : World where
  args := args
  makeVariable := makeVariable
  logVariable := logVariable
  noColorVariable := noColorVariable
  start inv := m.start inv.program
  openFile := m.tree.openFile
  output := output

end World

end TargetHelp
