import TargetHelp.Fault

/-!
# Where output goes

Output may be lost: a sink can refuse the bytes that it is given, or fail to
pass on what it took. Whoever writes hands over one text after the other
(`Sink.write`), up to the first that is refused, and then asks for all of them
to be passed on (`Sink.flush`).
-/

namespace TargetHelp

/-- Where output goes. -/
inductive Sink where
  /-- takes and passes on everything -/
  | working
  /-- refuses every byte -/
  | refusing (fault : Fault)
  /-- takes bytes but fails to pass them on -/
  | stuck (fault : Fault)
  deriving DecidableEq, Repr

namespace Sink

/-- Hands a text to a sink, which gives back what it took. There is nothing to
refuse in a text of no characters. -/
def write : Sink → Text → Except Fault Text
  | .refusing fault, t => if t.isEmpty then .ok [] else .error fault
  | _, t => .ok t

/-- Asks a sink to pass on what it took. -/
def flush : Sink → Except Fault Unit
  | .stuck fault => .error fault
  | _ => .ok ()

/-- Writes lines one after the other, each of them and then its line break, up to
the first that is refused. -/
def writeLines (sink : Sink) : List Text → Except Fault Text
  | [] => return []
  | line :: lines => do
    let start ← sink.write line
    let stop ← sink.write ['\n']
    return start ++ stop ++ (← sink.writeLines lines)

/-- Writes a text and asks for it to be passed on. -/
def deliver (sink : Sink) (t : Text) : Except Fault Text := do
  let taken ← sink.write t
  sink.flush
  return taken

end Sink

end TargetHelp
