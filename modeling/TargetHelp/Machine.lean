import TargetHelp.Stream

/-!
# Files and programs

A run needs two things of the machine that it happens on: it starts a program
and it opens files. Here the machine is a tree of files below the working
directory, and a list of programs that are found by their names alone. Of what
lies beside the working directory nothing can be named.

A path is followed component by component. What refuses it first decides the
fault: the path as a whole, something on the way that is no directory, a name
that is too long, a name that does not exist.

A program that was started prints what may break off on its way, and ends by
itself or is killed (`ToolRun`).
-/

namespace TargetHelp

/-- What a path may lead to. -/
inductive Node where
  /-- a file with its bytes -/
  | file (data : Bytes)
  /-- a directory -/
  | directory
  deriving DecidableEq, Repr

/-- The names along a path. Doubled slashes count once. -/
def pathNames (path : Text) : List Text := (path.splitOn '/').filter (· ≠ [])

/-- What lies below the working directory, each with the names along its path.
The directories along a path need not be listed. -/
abbrev FileTree := List (List Text × Node)

namespace FileTree

/-- The tree of files with these relative paths. -/
def ofList (files : List (Text × Node)) : FileTree :=
  files.map fun f => ((pathNames f.1).filter (· ≠ ['.']), f.2)

/-- What lies at these names below the working directory. -/
def node? (tree : FileTree) (names : List Text) : Option Node :=
  if names = [] then some .directory
  else
    match tree.reverse.find? (·.1 = names) with
    | some entry => some entry.2
    | none => if tree.any (names.isPrefixOf ·.1) then some .directory else none

end FileTree

/-- A place that a path leads to. -/
inductive Place where
  /-- below the working directory -/
  | below (names : List Text) (node : Node)
  /-- a directory that is not below the working directory -/
  | beside
  deriving DecidableEq, Repr

namespace Place

/-- Whether names may follow. -/
def isDirectory : Place → Bool
  | .below _ (.file _) => false
  | .below _ .directory => true
  | .beside => true

end Place

namespace FileTree

/-- The place that a name leads to from a directory. -/
def child (tree : FileTree) (place : Place) (name : Text) : Except Fault Place :=
  if !place.isDirectory then .error .notADirectory
  else if name = ['.'] then .ok place
  else if Text.byteLength name > 255 then .error .nameTooLong
  else
    match place with
    | .beside => if name = ['.', '.'] then .ok .beside else .error .notFound
    | .below names _ =>
      if name = ['.', '.'] then
        if names = [] then .ok .beside else .ok (.below names.dropLast .directory)
      else
        match tree.node? (names ++ [name]) with
        | some node => .ok (.below (names ++ [name]) node)
        | none => .error .notFound

/-- The place that a path leads to. A slash at the end asks for a directory. -/
def place (tree : FileTree) (path : Text) : Except Fault Place :=
  if path = [] then .error .notFound
  else if Text.byteLength path ≥ 4096 then .error .nameTooLong
  else do
    let start : Place := if path.head? = some '/' then .beside else .below [] .directory
    let place ← (pathNames path).foldlM tree.child start
    if path.getLast? = some '/' ∧ !place.isDirectory then .error .notADirectory
    else .ok place

/-- Opens the file at a path. A directory opens like a file and breaks off at
the first attempt to read from it. -/
def openFile (tree : FileTree) (path : Text) : Except Fault Stream :=
  if path.contains '\x00' then .error .nulInPath
  else do
    match ← tree.place path with
    | .below _ (.file data) => return .ofBytes data
    | _ => return .broken [] .isADirectory

end FileTree

/-! ## Programs -/

/-- How a program ended, as far as waiting for it tells. -/
inductive ToolEnd where
  /-- it exited with this status, zero for success -/
  | exited (status : UInt8)
  /-- a signal ended it, and what it had in memory may have been kept -/
  | signaled (number : Nat) (kept : Bool)
  /-- waiting for it failed -/
  | unknown (fault : Fault)
  deriving DecidableEq, Repr

/-- What comes of a program that was started. -/
structure ToolRun where
  /-- what it prints, as it arrives -/
  output : Stream
  /-- how it ends by itself -/
  ended : ToolEnd
  /-- how it ends if it is killed, because what it prints does not arrive -/
  killed : ToolEnd
  deriving DecidableEq, Repr

/-- The names of the signals, from the first. -/
def signalNames : List String :=
  ["SIGHUP", "SIGINT", "SIGQUIT", "SIGILL", "SIGTRAP", "SIGABRT", "SIGBUS", "SIGFPE", "SIGKILL",
    "SIGUSR1", "SIGSEGV", "SIGUSR2", "SIGPIPE", "SIGALRM", "SIGTERM", "SIGSTKFLT", "SIGCHLD",
    "SIGCONT", "SIGSTOP", "SIGTSTP", "SIGTTIN", "SIGTTOU", "SIGURG", "SIGXCPU", "SIGXFSZ",
    "SIGVTALRM", "SIGPROF", "SIGWINCH", "SIGIO", "SIGPWR", "SIGSYS"]

/-- A signal as it is shown: its number, and its name if it has one. -/
def signalText : Nat → Text
  | 0 => ['0']
  | n + 1 =>
    Text.ofNat (n + 1) ++
      ((signalNames[n]?).map fun s => " (".toList ++ s.toList ++ [')']).getD []

/-- What a program does that a machine can start. -/
structure Script where
  /-- everything that it prints -/
  output : Bytes
  /-- the status that it exits with -/
  status : UInt8
  deriving DecidableEq, Repr

/-- A program that does this comes to its end, unless it is killed. -/
def Script.run (s : Script) : ToolRun := ⟨.ofBytes s.output, .exited s.status, .signaled 9 false⟩

/-- A machine to run on. -/
structure Machine where
  /-- what lies below the working directory -/
  tree : FileTree
  /-- the programs that are found by their names -/
  programs : List Text
  /-- what each of them does -/
  toolRun : Script
  deriving DecidableEq, Repr

/-- Starts a program. A name without a slash is looked up among the programs;
anything else is a path, and nothing in the file tree may be executed. -/
def Machine.start (m : Machine) (program : Text) : Except Fault ToolRun :=
  if program = [] then .error .notFound
  else if program.contains '/' then do
    let _ ← m.tree.place program
    .error .permissionDenied
  else if Text.byteLength program > 255 then .error .nameTooLong
  else if m.programs.contains program then .ok m.toolRun.run
  else if program = ['.'] || program = ['.', '.'] then .error .permissionDenied
  else .error .notFound

end TargetHelp
