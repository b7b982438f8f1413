import TargetHelp.Text.Basic

/-!
# Decimal numbers

Which texts are numbers: a sign that may be missing, digits with at most one
point among them or next to them, and an exponent that may be missing too. The
names of infinity and of what is no number count as well, in letters of either
case.
-/

namespace TargetHelp.Text

/-- A text without the sign that it may begin with. -/
def dropSign : Text → Text
  | '+' :: rest => rest
  | '-' :: rest => rest
  | t => t

/-- Whether a text is nothing, or the exponent of a number: a letter, a sign
that may be missing, and at least one digit. -/
def isExponent : Text → Bool
  | [] => true
  | c :: rest =>
    let digits := dropSign rest
    c.toLower = 'e' && !digits.isEmpty && digits.all Char.isDigit

/-- Whether a text is a number without a sign. -/
def isUnsignedDecimal (t : Text) : Bool :=
  ["inf".toList, "infinity".toList, "nan".toList].contains (t.map Char.toLower) ||
    match t.dropWhile Char.isDigit with
    | '.' :: rest =>
      (t.head?.any Char.isDigit || rest.head?.any Char.isDigit) &&
        isExponent (rest.dropWhile Char.isDigit)
    | rest => t.head?.any Char.isDigit && isExponent rest

/-- Whether a text is a number. -/
def isDecimal (t : Text) : Bool := isUnsignedDecimal (dropSign t)

end TargetHelp.Text
