import TargetHelp.Text.Basic
import TargetHelp.Text.Property.GraphemeExtend
import TargetHelp.Text.Property.Printable

/-!
# Quoted text

A text that is shown inside a line of other output stands in double quotes, so
that its ends can be seen. Quotes, backslashes and the usual controls are
written with a backslash, and every other character that does not print by
itself is written as its code point.
-/

namespace TargetHelp.Text

/-- The lower-case hexadecimal digits of a number. -/
def hexadecimal (n : Nat) : Text := Nat.toDigits 16 n

/-- A character as its code point in braces. -/
def codePoint (c : Char) : Text := ['\\', 'u', '\x7b'] ++ hexadecimal c.toNat ++ ['\x7d']

/-- A character as it is written inside quotes. -/
def quotedChar (c : Char) : Text :=
  if c = '\x00' then ['\\', '0']
  else if c = '\t' then ['\\', 't']
  else if c = '\r' then ['\\', 'r']
  else if c = '\n' then ['\\', 'n']
  else if c = '"' then ['\\', '"']
  else if c = '\\' then ['\\', '\\']
  else if graphemeExtend.has c || unprintable.has c then codePoint c
  else [c]

/-- A text in double quotes. -/
def quoted (t : Text) : Text := '"' :: t.flatMap quotedChar ++ ['"']

end TargetHelp.Text
