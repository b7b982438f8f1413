import TargetHelp.Fault
import TargetHelp.Text.Utf8

/-!
# Streams and their lines

A stream is the bytes that arrive, and the fault that breaks it off behind
them if it does not simply end. Lines are cut at newline bytes and decoded one
by one; a carriage return in front of the newline belongs to the line's end.

A stream that ends still yields a last line without a newline. A stream that
breaks does not: what is cut short is lost (`Stream.rawLines`).
-/

namespace TargetHelp

/-- Bytes from a file or a program. -/
structure Stream where
  /-- the bytes that arrive -/
  data : Bytes
  /-- what breaks the stream off behind them, if anything does -/
  fault : Option Fault
  deriving DecidableEq, Repr

namespace Stream

/-- A stream that ends behind its bytes. -/
def ofBytes (data : Bytes) : Stream := ⟨data, none⟩

/-- A stream that breaks off behind its bytes. -/
def broken (data : Bytes) (fault : Fault) : Stream := ⟨data, some fault⟩

/-- The bytes of a line without a carriage return at their end. -/
def dropReturn (line : Bytes) : Bytes :=
  if line.getLast? = some 13 then line.dropLast else line

/-- The lines of a stream before they are decoded. What stands behind the last
newline is a line only if it is not empty and the stream ends there. -/
def rawLines (s : Stream) : List Bytes :=
  let pieces := s.data.splitOn Utf8.newline
  if s.fault.isNone && pieces.getLast? ≠ some [] then pieces else pieces.dropLast

/-- The lines that a stream yields before it ends or breaks. -/
def lines (s : Stream) : List Text := s.rawLines.map fun line => Utf8.decode (dropReturn line)

/-- All lines of a stream, if it does not break. -/
def readLines (s : Stream) : Except Fault (List Text) :=
  match s.fault with
  | none => .ok s.lines
  | some fault => .error fault

end Stream

end TargetHelp
