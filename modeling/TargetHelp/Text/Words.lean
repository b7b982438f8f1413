import TargetHelp.Text.Blank

/-!
# Words of a value

The value of a variable is a list of words, written the way a command line is:
quotes group words, a backslash takes the meaning of the next character away,
and `#` at the start of a word begins a comment. A value whose quotes do not
close is cut at its blanks instead (`words`).

Only space, tab and newline separate words here; the other blanks are
characters of a word.
-/

namespace TargetHelp

/-- Where the reader stands inside a value. -/
inductive WordMode where
  /-- between two words -/
  | between
  /-- after a backslash between two words -/
  | betweenEscape
  /-- inside a word, outside quotes -/
  | bare
  /-- after a backslash inside a word -/
  | bareEscape
  /-- inside single quotes -/
  | single
  /-- inside double quotes -/
  | double
  /-- after a backslash inside double quotes -/
  | doubleEscape
  /-- inside a comment -/
  | comment
  deriving DecidableEq, Repr

/-- The characters that separate two words. -/
def isSeparator (c : Char) : Bool := c = ' ' || c = '\t' || c = '\n'

/-- The characters that a backslash inside double quotes takes the meaning of. -/
def isDoubleEscapable (c : Char) : Bool := c = '$' || c = '\x60' || c = '"' || c = '\\'

namespace Text

/-- Reads words from a position on. `word` holds the characters of the word
under way, the last one first. There is no answer if a quote stays open. -/
def quotedWordsFrom : WordMode → Text → Text → Option (List Text)
  | .between, _, [] => some []
  | .betweenEscape, _, [] => some [['\\']]
  | .bare, word, [] => some [word.reverse]
  | .bareEscape, word, [] => some [('\\' :: word).reverse]
  | .single, _, [] => none
  | .double, _, [] => none
  | .doubleEscape, _, [] => none
  | .comment, _, [] => some []
  | .between, _, c :: rest =>
    if isSeparator c then quotedWordsFrom .between [] rest
    else if c = '\'' then quotedWordsFrom .single [] rest
    else if c = '"' then quotedWordsFrom .double [] rest
    else if c = '\\' then quotedWordsFrom .betweenEscape [] rest
    else if c = '#' then quotedWordsFrom .comment [] rest
    else quotedWordsFrom .bare [c] rest
  | .betweenEscape, _, c :: rest =>
    if c = '\n' then quotedWordsFrom .between [] rest
    else quotedWordsFrom .bare [c] rest
  | .bare, word, c :: rest =>
    if isSeparator c then (quotedWordsFrom .between [] rest).map (word.reverse :: ·)
    else if c = '\'' then quotedWordsFrom .single word rest
    else if c = '"' then quotedWordsFrom .double word rest
    else if c = '\\' then quotedWordsFrom .bareEscape word rest
    else quotedWordsFrom .bare (c :: word) rest
  | .bareEscape, word, c :: rest =>
    if c = '\n' then quotedWordsFrom .bare word rest
    else quotedWordsFrom .bare (c :: word) rest
  | .single, word, c :: rest =>
    if c = '\'' then quotedWordsFrom .bare word rest
    else quotedWordsFrom .single (c :: word) rest
  | .double, word, c :: rest =>
    if c = '"' then quotedWordsFrom .bare word rest
    else if c = '\\' then quotedWordsFrom .doubleEscape word rest
    else quotedWordsFrom .double (c :: word) rest
  | .doubleEscape, word, c :: rest =>
    if c = '\n' then quotedWordsFrom .double word rest
    else if isDoubleEscapable c then quotedWordsFrom .double (c :: word) rest
    else quotedWordsFrom .double (c :: '\\' :: word) rest
  | .comment, _, c :: rest =>
    if c = '\n' then quotedWordsFrom .between [] rest
    else quotedWordsFrom .comment [] rest

/-- The words of a value, unless one of its quotes stays open. -/
def quotedWords? (value : Text) : Option (List Text) := quotedWordsFrom .between [] value

/-- The words of a value. Nothing is kept of the words that came before an
open quote: the whole value is then cut at its blanks. -/
def words (value : Text) : List Text := (quotedWords? value).getD (blankWords value)

theorem words_eq_of_quotedWords? {value : Text} {ws : List Text}
    (h : quotedWords? value = some ws) : words value = ws := by
  rw [words, h]
  rfl

theorem words_eq_blankWords {value : Text} (h : quotedWords? value = none) :
    words value = blankWords value := by
  rw [words, h]
  rfl

end Text

end TargetHelp
