/-!
# Text and bytes

Everything that the program reads arrives as bytes, and everything that it
reasons about is text. Both are plain lists, so that the rules on them are
recursion on lists and the laws of lists apply to them.
-/

namespace TargetHelp

/-- Text is the list of its characters. -/
abbrev Text := List Char

/-- Raw input is the list of its bytes. -/
abbrev Bytes := List UInt8

namespace Text

/-- The decimal digits of a number. -/
def ofNat (n : Nat) : Text := Nat.toDigits 10 n

/-- The lines of a text: what stands between its newlines. A text without a
newline is one line, and a newline at the end leaves an empty last line. -/
def lines (t : Text) : List Text := t.splitOn '\n'

/-- The lines of a text put together again, a newline between each two. -/
def unlines (ls : List Text) : Text := ['\n'].intercalate ls

@[simp] theorem unlines_nil : unlines [] = [] := rfl

@[simp] theorem unlines_singleton (l : Text) : unlines [l] = l := List.intercalate_singleton

theorem unlines_cons_cons (l l' : Text) (ls : List Text) :
    unlines (l :: l' :: ls) = l ++ '\n' :: unlines (l' :: ls) := by
  simp [unlines, List.intercalate_cons_cons]

/-- Cutting a text into lines loses nothing. -/
@[simp] theorem unlines_lines (t : Text) : unlines (lines t) = t :=
  List.intercalate_splitOn '\n'

/-- The number of bytes that a text takes when it is stored as UTF-8. -/
def byteLength (t : Text) : Nat := t.foldr (fun c n => c.utf8Size + n) 0

/-- A text without the characters that begin in its first `n` bytes. -/
def dropBytes : Nat → Text → Text
  | 0, t => t
  | _ + 1, [] => []
  | n + 1, c :: t => dropBytes (n + 1 - c.utf8Size) t

/-- The characters of a text that end in its first `n` bytes. -/
def takeBytes (n : Nat) : Text → Text
  | [] => []
  | c :: t => if c.utf8Size ≤ n then c :: takeBytes (n - c.utf8Size) t else []

/-- What stands in a text from one byte up to another. -/
def slice (start stop : Nat) (t : Text) : Text := takeBytes (stop - start) (dropBytes start t)

end Text

end TargetHelp
