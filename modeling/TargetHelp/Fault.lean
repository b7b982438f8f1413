import TargetHelp.Text.Basic

/-!
# What goes wrong

A `Fault` is a reason that the system gives for refusing something: a file to
be opened, a program to be started, bytes to be read or written. A `Failure`
says what could not be done because of a fault, and a failed run is reported
as a chain of such sentences, the outermost first (`report`).
-/

namespace TargetHelp

/-- The reasons that the system gives. -/
inductive Fault where
  /-- nothing of that name exists -/
  | notFound
  /-- the thing exists but must not be used that way -/
  | permissionDenied
  /-- a path leads through something that is no directory -/
  | notADirectory
  /-- a directory was read as if it were a file -/
  | isADirectory
  /-- no room is left where the output goes -/
  | noSpace
  /-- a path or a part of it is too long -/
  | nameTooLong
  /-- a path contains the character of code zero -/
  | nulInPath
  /-- a reason in the words of the device that gave it -/
  | device (message : Text)
  deriving DecidableEq, Repr

/-- The wording of a system reason with its number. -/
def osMessage (words : String) (code : Nat) : Text :=
  words.toList ++ " (os error ".toList ++ Text.ofNat code ++ [')']

/-- The sentence that a fault is reported with. -/
def Fault.message : Fault → Text
  | .notFound => osMessage "No such file or directory" 2
  | .permissionDenied => osMessage "Permission denied" 13
  | .notADirectory => osMessage "Not a directory" 20
  | .isADirectory => osMessage "Is a directory" 21
  | .noSpace => osMessage "No space left on device" 28
  | .nameTooLong => osMessage "File name too long" 36
  | .nulInPath => "file name contained an unexpected NUL byte".toList
  | .device message => message

/-- What could not be done. -/
inductive Failure where
  /-- the build tool with this command line did not start -/
  | launch (command : Text) (fault : Fault)
  /-- a stream of this name broke -/
  | read (what : Text) (fault : Fault)
  /-- the file at this path was not opened -/
  | openFile (path : Text) (fault : Fault)
  deriving DecidableEq, Repr

namespace Failure

/-- What could not be done, as a sentence. -/
def message : Failure → Text
  | .launch command _ => "failed to start command '".toList ++ command ++ ['\'']
  | .read what _ => "failed to read ".toList ++ what
  | .openFile path _ => "failed to open ".toList ++ path

/-- Why it could not be done. -/
def fault : Failure → Fault
  | .launch _ fault => fault
  | .read _ fault => fault
  | .openFile _ fault => fault

/-- The sentences of a failure, from what could not be done to why. -/
def chain (f : Failure) : List Text := [f.message, f.fault.message]

end Failure

/-! ## Reports -/

/-- A text whose lines after the first are moved right by `n` columns. -/
def hang (n : Nat) (t : Text) : Text :=
  ('\n' :: List.replicate n ' ').intercalate (Text.lines t)

/-- The causes of a failed run, numbered from zero, a line break after each. -/
def numberedCauses : Nat → List Text → Text
  | _, [] => []
  | n, cause :: causes =>
    let number := Text.ofNat n
    List.replicate (5 - number.length) ' ' ++ number ++ [':', ' '] ++ hang 7 cause ++ ['\n'] ++
      numberedCauses (n + 1) causes

/-- The report of a failed run: the outermost sentence, then the causes. A
single cause is not numbered. -/
def report (outermost : Text) (causes : List Text) : Text :=
  "Error: ".toList ++ outermost ++ ['\n'] ++
    match causes with
    | [] => []
    | [cause] => "\nCaused by:\n    ".toList ++ hang 4 cause ++ ['\n']
    | causes => "\nCaused by:\n".toList ++ numberedCauses 0 causes

end TargetHelp
