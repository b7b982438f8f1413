import TargetHelp.Program

/-!
# The command

The command reads the build tool's database from its standard input, opens the
makefiles that the database lists, and prints the listing. All that it does
itself is to look at the outside and to write; what is written is the outcome
of a run in the world that it found (`World.run`).
-/

namespace TargetHelp

/-- The number that the system gives with a refusal. -/
def errorNumber? : IO.Error → Option UInt32
  | .noFileOrDirectory _ n _ => some n
  | .permissionDenied _ n _ => some n
  | .inappropriateType _ n _ => some n
  | .invalidArgument _ n _ => some n
  | .resourceExhausted _ n _ => some n
  | _ => none

/-- A number without its sign: some calls give the negative of what the others
give. -/
def absoluteNumber (n : UInt32) : UInt32 := if n < 0x80000000 then n else 0 - n

/-- The fault behind a refusal of the system. -/
def Fault.ofError (e : IO.Error) : Fault :=
  match (errorNumber? e).map absoluteNumber with
  | some 2 => .notFound
  | some 13 => .permissionDenied
  | some 20 => .notADirectory
  | some 21 => .isADirectory
  | some 28 => .noSpace
  | some 36 => .nameTooLong
  | _ => .device (toString e).toList

/-- Opens a file and reads all of it. -/
def readMakefile (path : Text) : IO (Except Fault Stream) := do
  if path.contains '\x00' then return .error .nulInPath
  try
    let data ← IO.FS.readBinFile (String.ofList path)
    return .ok (.ofBytes data.toList)
  catch e =>
    match Fault.ofError e with
    | .isADirectory => return .ok (.broken [] .isADirectory)
    | fault => return .error fault

/-- The files that a run with these options opens, each with what opening it
gives. -/
def readMakefiles (dump : Stream) (opts : Options) :
    IO (List (Text × Except Fault Stream)) := do
  match Database.read [] dump with
  | .error _ => return []
  | .ok db => ((db.makefilePaths? opts).getD []).mapM fun path => do
    return (path, ← readMakefile path)

/-- Reads to the end of the input, or to where it breaks off. -/
partial def readAll (input : IO.FS.Stream) (acc : ByteArray) : IO Stream := do
  match ← (input.read 65536).toBaseIO with
  | .error e => return .broken acc.toList (.ofError e)
  | .ok chunk =>
    if chunk.isEmpty then return .ofBytes acc.toList else readAll input (acc ++ chunk)

/-- The outside as the command finds it. -/
def observe (args : List Text) : IO World := do
  let text (name : String) : IO (Option Text) := return (← IO.getEnv name).map String.toList
  let (dump, files) ← match Request.read args with
    | .ok (.run opts) => do
      let dump ← readAll (← IO.getStdin) .empty
      pure (dump, ← readMakefiles dump opts)
    | _ => pure (.ofBytes [], [])
  return {
    args := args
    makeVariable := ← text "MAKE"
    logVariable := ← text "RUST_LOG"
    noColorVariable := ← text "NO_COLOR"
    start := fun _ => .ok ⟨dump, .exited 0, .exited 0⟩
    openFile := fun path => (files.lookup path).getD (.error .notFound)
    output := .working }

/-- Prints what a run prints. If that is refused, the run counts as one whose
output is refused. -/
def perform (world : World) : IO Outcome := do
  let outcome := world.run
  try
    let output ← IO.getStdout
    output.putStr (String.ofList outcome.stdout)
    output.flush
    return outcome
  catch e => return { world with output := .refusing (.ofError e) }.run

end TargetHelp

/-- Runs the command. -/
def main (args : List String) : IO UInt32 := do
  let outcome ← TargetHelp.perform (← TargetHelp.observe (args.map String.toList))
  IO.eprint (String.ofList outcome.stderr)
  return UInt32.ofNat outcome.code
