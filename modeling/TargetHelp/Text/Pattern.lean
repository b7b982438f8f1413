import TargetHelp.Text.Blank
import TargetHelp.Text.Property.Alphanumeric

/-!
# Regular expressions

Which texts are patterns, that is, regular expressions. Nothing is ever matched
against a pattern; a text that is none is only refused.

A pattern is read from left to right. The reader (`PatternReader`) knows the
mode that it reads in, the modes around the groups that are open, and how deep
groups, classes in brackets and repetitions are nested. Each step takes one item
off the text and leaves a suffix of what stands behind its first character
(`PatternReader.step?_suffix`), so the reader comes to an end.

Counted repetitions and everything else that needs braces is refused: a pattern
is written between braces, and none of its characters closes them.
-/

namespace TargetHelp

/-! ## Modes -/

/-- How a pattern is read. Letters behind a question mark change it. -/
structure PatternMode where
  /-- blanks and comments are passed over -/
  spaced : Bool
  /-- a character stands for itself, and not for its bytes -/
  unicode : Bool
  deriving DecidableEq, Repr

namespace PatternMode

/-- The mode that a pattern begins in. -/
def initial : PatternMode := ⟨false, true⟩

/-- A text without the blanks and comments at its start. A comment goes from a
number sign to the end of the line. -/
def skipBlanks (inComment : Bool) : Text → Text
  | [] => []
  | c :: rest =>
    if inComment then skipBlanks (c ≠ '\n') rest
    else if isBlank c then skipBlanks false rest
    else if c = '#' then skipBlanks true rest
    else c :: rest

/-- A text without what is passed over at its start. -/
def skip (m : PatternMode) (t : Text) : Text := if m.spaced then skipBlanks false t else t

/-- The letters that change the mode, or how a pattern matches. -/
def letters : Text := "imsUuRx".toList

/-- Whether a text is made of such letters, none of them twice, with a dash in
front of those that are switched off. -/
def isSwitch (t : Text) : Bool :=
  t.all (fun c => letters.contains c || c = '-') && decide t.Nodup && t.getLast? ≠ some '-'

/-- The mode after these letters. -/
def switch (m : PatternMode) (t : Text) : PatternMode :=
  let now (c : Char) (before : Bool) : Bool :=
    if t.contains c then (t.takeWhile (· ≠ '-')).contains c else before
  ⟨now 'x' m.spaced, now 'u' m.unicode⟩

theorem skipBlanks_suffix (inComment : Bool) (t : Text) : skipBlanks inComment t <:+ t := by
  induction t generalizing inComment with
  | nil => exact List.suffix_rfl
  | cons c rest ih =>
    have hstep : ∀ b, skipBlanks b rest <:+ c :: rest :=
      fun b => (ih b).trans (List.suffix_cons c rest)
    rw [skipBlanks]
    split
    · exact hstep _
    · split
      · exact hstep _
      · split
        · exact hstep _
        · exact List.suffix_rfl

/-- Passing over blanks leaves a suffix of the text. -/
theorem skip_suffix (m : PatternMode) (t : Text) : m.skip t <:+ t := by
  rw [skip]
  split
  · exact skipBlanks_suffix false t
  · exact List.suffix_rfl

end PatternMode

/-! ## Escapes -/

/-- What an item of a pattern stands for. -/
inductive PatternItem where
  /-- one character -/
  | char (c : Char)
  /-- a set of characters -/
  | set
  /-- a place between characters -/
  | place
  deriving DecidableEq, Repr

/-- The value of a hexadecimal digit. -/
def hexDigit? (c : Char) : Option Nat :=
  if c.isDigit then some (c.toNat - '0'.toNat)
  else if 'a' ≤ c ∧ c ≤ 'f' then some (c.toNat - 'a'.toNat + 10)
  else if 'A' ≤ c ∧ c ≤ 'F' then some (c.toNat - 'A'.toNat + 10)
  else none

/-- The characters that have a letter behind a backslash. -/
def namedControls : List (Char × Char) :=
  [('a', '\x07'), ('f', '\x0c'), ('t', '\t'), ('n', '\n'), ('r', '\r'), ('v', '\x0b')]

/-- The characters that stand for themselves behind a backslash: those of ASCII
that are neither letters nor digits nor angle brackets. -/
def isMark (c : Char) : Bool := c ≤ '\x7f' && !c.isAlphanum && c ≠ '<' && c ≠ '>'

namespace PatternMode

/-- Reads this many hexadecimal digits, behind others of a value. -/
def digits? (m : PatternMode) : Nat → Nat → Text → Option (Nat × Text)
  | 0, value, t => some (value, m.skip t)
  | n + 1, value, t =>
    match m.skip t with
    | [] => none
    | c :: rest => (hexDigit? c).bind fun d => m.digits? n (16 * value + d) rest

/-- Reads a character that is given by this many hexadecimal digits. Two digits
give a byte, which must be ASCII where characters are their bytes. -/
def code? (m : PatternMode) (n : Nat) (t : Text) : Option (PatternItem × Text) :=
  (m.digits? n 0 t).bind fun (value, rest) =>
    if value.isValidChar ∧ (m.unicode ∨ n ≠ 2 ∨ value < 0x80) then
      some (.char (Char.ofNat value), rest)
    else none

/-- Reads a general category of characters, by its letter. -/
def category? (m : PatternMode) (t : Text) : Option (PatternItem × Text) :=
  match m.skip t with
  | [] => none
  | c :: rest =>
    if m.unicode ∧ "CLMNPSZ".toList.contains c.toUpper then some (.set, m.skip rest) else none

/-- What a single character behind a backslash stands for. Sets that reach
beyond ASCII need Unicode; the edges of words must not be those of Unicode
words. -/
def escaped? (m : PatternMode) (c : Char) : Option PatternItem :=
  if "dsw".toList.contains c then some .set
  else if "DSW".toList.contains c then if m.unicode then some .set else none
  else if "Az".toList.contains c then some .place
  else if "bB<>".toList.contains c then if m.unicode then none else some .place
  else if isMark c then some (.char c)
  else (namedControls.lookup c).map .char

/-- Reads what stands behind a backslash. -/
def escape? (m : PatternMode) : Text → Option (PatternItem × Text)
  | [] => none
  | c :: rest =>
    if c = 'x' then m.code? 2 rest
    else if c = 'u' then m.code? 4 rest
    else if c = 'U' then m.code? 8 rest
    else if c = 'p' ∨ c = 'P' then m.category? rest
    else (m.escaped? c).map fun item => (item, rest)

theorem digits?_suffix {m : PatternMode} {n value value' : Nat} {t rest : Text}
    (h : m.digits? n value t = some (value', rest)) : rest <:+ t := by
  induction n generalizing value t with
  | zero =>
    cases h
    exact skip_suffix m t
  | succ n ih =>
    rw [digits?] at h
    split at h
    · cases h
    · next c tail hskip =>
      obtain ⟨d, -, h⟩ := Option.bind_eq_some_iff.mp h
      have htail : tail <:+ t := (List.suffix_cons c tail).trans (hskip ▸ skip_suffix m t)
      exact (ih h).trans htail

theorem code?_suffix {m : PatternMode} {n : Nat} {t rest : Text} {item : PatternItem}
    (h : m.code? n t = some (item, rest)) : rest <:+ t := by
  obtain ⟨⟨value, tail⟩, hdigits, h⟩ := Option.bind_eq_some_iff.mp h
  dsimp only at h
  split at h
  · cases h
    exact digits?_suffix hdigits
  · cases h

theorem category?_suffix {m : PatternMode} {t rest : Text} {item : PatternItem}
    (h : m.category? t = some (item, rest)) : rest <:+ t := by
  rw [category?] at h
  split at h
  · cases h
  · next c tail hskip =>
    split at h
    · cases h
      exact (skip_suffix m tail).trans ((List.suffix_cons c tail).trans (hskip ▸ skip_suffix m t))
    · cases h

/-- Reading an escape leaves a suffix of the text behind the backslash. -/
theorem escape?_suffix {m : PatternMode} {t rest : Text} {item : PatternItem}
    (h : m.escape? t = some (item, rest)) : rest <:+ t := by
  cases t with
  | nil => cases h
  | cons c tail =>
    refine List.IsSuffix.trans ?_ (List.suffix_cons c tail)
    rw [escape?] at h
    split at h
    · exact code?_suffix h
    · split at h
      · exact code?_suffix h
      · split at h
        · exact code?_suffix h
        · split at h
          · exact category?_suffix h
          · obtain ⟨d, -, h⟩ := Option.map_eq_some_iff.mp h
            cases h
            exact List.suffix_rfl

/-! ## Classes in brackets -/

/-- The names of classes, which stand between colons. -/
def classNames : List Text :=
  ["alnum".toList, "alpha".toList, "ascii".toList, "blank".toList, "cntrl".toList,
   "digit".toList, "graph".toList, "lower".toList, "print".toList, "punct".toList,
   "space".toList, "upper".toList, "word".toList, "xdigit".toList]

/-- A text without the dashes at its start, and the blanks behind them. The
dashes are counted on from a number. -/
def skipDashes (m : PatternMode) (n : Nat) : Text → Nat × Text
  | '-' :: rest => m.skipDashes (n + 1) (m.skip rest)
  | t => (n, t)
termination_by t => t.length
decreasing_by
  have := (skip_suffix m rest).length_le
  simp only [List.length_cons]
  omega

/-- The number of members that a class begins with without saying so, and the
text behind them: dashes, or else a closing bracket. -/
def firstMembers (m : PatternMode) : Text → Nat × Text
  | ']' :: rest => (1, m.skip rest)
  | t => m.skipDashes 0 t

/-- Reads the beginning of a class, behind its opening bracket: a caret that
turns the class around, and the first members. What is turned around reaches
beyond ASCII, and so needs Unicode. -/
def openClass? (m : PatternMode) (t : Text) : Option (Nat × Text) :=
  match m.skip t with
  | '^' :: rest => if m.unicode then some (m.firstMembers (m.skip rest)) else none
  | t => some (m.firstMembers t)

/-- Reads the name of a class, up to the end of the brackets. -/
def className? (t : Text) : Option Text :=
  match t.dropWhile (· ≠ ':') with
  | ':' :: ']' :: rest => if classNames.contains (t.takeWhile (· ≠ ':')) then some rest else none
  | _ => none

/-- Reads a class that is given by its name, behind the opening bracket, and
whether the class is turned around. -/
def namedClass? : Text → Option (Bool × Text)
  | ':' :: '^' :: t => (className? t).map fun rest => (true, rest)
  | ':' :: t => (className? t).map fun rest => (false, rest)
  | _ => none

/-- Reads a member of a class that begins with this character. Where characters
are their bytes, only those of ASCII can be members. -/
def member? (m : PatternMode) (c : Char) (rest : Text) : Option (PatternItem × Text) :=
  let found := if c = '\\' then m.escape? rest else some (.char c, rest)
  found.filter fun (item, _) =>
    match item with
    | .char c => m.unicode || c ≤ '\x7f'
    | .set => true
    | .place => false

/-- The character behind a dash. Of a comment in between only the sign that it
begins with is passed over. -/
def behindDash? (m : PatternMode) (t : Text) : Option Char :=
  if m.spaced then
    match t.dropWhile isBlank with
    | '#' :: rest => (rest.dropWhile isBlank).head?
    | t => t.head?
  else t.head?

/-- Reads a member of a class or a range of them, the lower end first. A dash in
front of a closing bracket or of another dash makes no range. -/
def range? (m : PatternMode) (c : Char) (rest : Text) : Option Text :=
  (m.member? c rest).bind fun (first, rest) =>
    match m.skip rest with
    | '-' :: rest' =>
      if m.behindDash? rest' = some ']' ∨ m.behindDash? rest' = some '-' then some rest
      else
        match m.skip rest' with
        | [] => none
        | d :: rest'' =>
          (m.member? d rest'').bind fun (last, rest) =>
            match first, last with
            | .char low, .char high => if low ≤ high then some rest else none
            | _, _ => none
    | _ => some rest

theorem skipDashes_suffix (m : PatternMode) (n : Nat) (t : Text) :
    (m.skipDashes n t).2 <:+ t := by
  fun_induction skipDashes m n t with
  | case1 n rest ih => exact ih.trans ((skip_suffix m rest).trans (List.suffix_cons '-' rest))
  | case2 n t => exact List.suffix_rfl

theorem firstMembers_suffix (m : PatternMode) (t : Text) : (m.firstMembers t).2 <:+ t := by
  rw [firstMembers.eq_def]
  split
  · next tail => exact (skip_suffix m tail).trans (List.suffix_cons ']' tail)
  · exact skipDashes_suffix m 0 _

/-- Opening a class leaves a suffix of the text behind the bracket. -/
theorem openClass?_suffix {m : PatternMode} {n : Nat} {t rest : Text}
    (h : m.openClass? t = some (n, rest)) : rest <:+ t := by
  have hmembers : ∀ {u : Text}, some (m.firstMembers u) = some (n, rest) → rest <:+ u := by
    intro u hu
    have hsuffix := firstMembers_suffix m u
    rw [Option.some.inj hu] at hsuffix
    exact hsuffix
  rw [openClass?] at h
  split at h
  · next tail hskip =>
    split at h
    · exact (hmembers h).trans
        ((skip_suffix m tail).trans ((List.suffix_cons '^' tail).trans (hskip ▸ skip_suffix m t)))
    · cases h
  · exact (hmembers h).trans (skip_suffix m t)

theorem className?_suffix {t rest : Text} (h : className? t = some rest) : rest <:+ t := by
  rw [className?] at h
  split at h
  · next tail hdrop =>
    have htail : ':' :: ']' :: tail <:+ t := hdrop ▸ List.dropWhile_suffix _
    split at h
    · cases h
      exact (List.suffix_append [':', ']'] rest).trans htail
    · cases h
  · cases h

/-- Reading a class by its name leaves a suffix of the text behind the
bracket. -/
theorem namedClass?_suffix {t rest : Text} {negated : Bool}
    (h : namedClass? t = some (negated, rest)) : rest <:+ t := by
  unfold namedClass? at h
  split at h
  · next tail =>
    obtain ⟨rest, hname, h⟩ := Option.map_eq_some_iff.mp h
    cases h
    exact (className?_suffix hname).trans (List.suffix_append [':', '^'] tail)
  · next tail _ =>
    obtain ⟨rest, hname, h⟩ := Option.map_eq_some_iff.mp h
    cases h
    exact (className?_suffix hname).trans (List.suffix_cons ':' tail)
  · cases h

theorem member?_suffix {m : PatternMode} {c : Char} {t rest : Text} {item : PatternItem}
    (h : m.member? c t = some (item, rest)) : rest <:+ t := by
  obtain ⟨h, -⟩ := Option.filter_eq_some_iff.mp h
  split at h
  · exact escape?_suffix h
  · cases h
    exact List.suffix_rfl

/-- Reading a range leaves a suffix of the text behind its first character. -/
theorem range?_suffix {m : PatternMode} {c : Char} {t rest : Text}
    (h : m.range? c t = some rest) : rest <:+ t := by
  obtain ⟨⟨first, tail⟩, hfirst, h⟩ := Option.bind_eq_some_iff.mp h
  have htail : tail <:+ t := member?_suffix hfirst
  dsimp only at h
  split at h
  · next rest' hskip =>
    have hrest' : rest' <:+ tail := (List.suffix_cons '-' rest').trans (hskip ▸ skip_suffix m tail)
    split at h
    · cases h
      exact htail
    · split at h
      · cases h
      · next d rest'' hskip' =>
        have hrest'' : rest'' <:+ rest' :=
          (List.suffix_cons d rest'').trans (hskip' ▸ skip_suffix m rest')
        obtain ⟨⟨last, after⟩, hlast, h⟩ := Option.bind_eq_some_iff.mp h
        dsimp only at h
        split at h
        · split at h
          · cases h
            exact (member?_suffix hlast).trans (hrest''.trans (hrest'.trans htail))
          · cases h
        · cases h
  · cases h
    exact htail

end PatternMode

/-! ## Depth -/

/-- What is known of the items between two parentheses or brackets. They fall
into branches, of which the last is under way. -/
structure PatternLevel where
  /-- the number of items in the branch under way -/
  count : Nat
  /-- how deep the last of them is -/
  last : Nat
  /-- how deep the deepest before the last is -/
  deepest : Nat
  /-- how deep the branches before this one are, if there are any -/
  earlier : Option Nat
  deriving DecidableEq, Repr

namespace PatternLevel

/-- A level that begins with this many characters. -/
def ofCount (n : Nat) : PatternLevel := ⟨n, 0, 0, none⟩

/-- A level with one more item. -/
def add (l : PatternLevel) (depth : Nat) : PatternLevel :=
  { l with count := l.count + 1, last := depth, deepest := max l.deepest l.last }

/-- A level whose last item is repeated. -/
def repeatLast (l : PatternLevel) : PatternLevel := { l with last := l.last + 1 }

/-- How deep the branch under way is. Several items are one deeper than the
deepest of them. -/
def branchDepth (l : PatternLevel) : Nat :=
  match l.count with
  | 0 => 0
  | 1 => l.last
  | _ => max l.last l.deepest + 1

/-- How deep a level is. Several branches are one deeper than the deepest of
them. -/
def depth (l : PatternLevel) : Nat :=
  match l.earlier with
  | none => l.branchDepth
  | some depth => max depth l.branchDepth + 1

/-- A level of a group at the start of another branch. -/
def alternative (l : PatternLevel) : PatternLevel :=
  { ofCount 0 with earlier := some (max (l.earlier.getD 0) l.branchDepth) }

/-- A level of a class behind an operation, the operands of which are two by
two. -/
def operand (l : PatternLevel) : PatternLevel := { ofCount 0 with earlier := some l.depth }

end PatternLevel

/-! ## Reading a pattern -/

/-- What the reader of a pattern knows. -/
structure PatternReader where
  /-- the mode that it reads in -/
  mode : PatternMode
  /-- the level that it reads -/
  level : PatternLevel
  /-- the modes and levels around the open groups, the innermost first -/
  outer : List (PatternMode × PatternLevel)
  /-- the levels around the open classes, the innermost first -/
  classes : List PatternLevel
  /-- the names of groups so far -/
  names : List Text
  /-- whether the last item may be repeated -/
  repeatable : Bool
  deriving DecidableEq, Repr

/-- Whether a text can name a group. -/
def isGroupName : Text → Bool
  | [] => false
  | c :: rest =>
    (alphabetic.has c || c = '_') &&
      rest.all fun c => isAlphanumeric c || "_.[]".toList.contains c

namespace PatternReader

/-- Nothing is read. -/
def initial : PatternReader := ⟨.initial, .ofCount 0, [], [], [], false⟩

/-- How deep a pattern may be. -/
def maxDepth : Nat := 250

/-- The reader behind a plain item. -/
def behindItem (r : PatternReader) : PatternReader :=
  { r with level := r.level.add 0, repeatable := true }

/-- The reader at the start of a group that is read in a mode. -/
def enter (r : PatternReader) (m : PatternMode) : PatternReader :=
  { r with
    mode := m, level := .ofCount 0, outer := (r.mode, r.level) :: r.outer, repeatable := false }

/-- The reader at the start of a class with this many members. -/
def enterClass (r : PatternReader) (n : Nat) : PatternReader :=
  { r with level := .ofCount n, classes := r.level :: r.classes }

/-- Reads the beginning of a group with a name. -/
def named? (r : PatternReader) (t : Text) : Option (PatternReader × Text) :=
  let name := t.takeWhile (· ≠ '>')
  match t.dropWhile (· ≠ '>') with
  | [] => none
  | _ :: rest =>
    if isGroupName name && !r.names.contains name then
      some ({ r.enter r.mode with names := name :: r.names }, rest)
    else none

/-- Reads letters that change the mode, for the group that they open or up to
the end of the group around them. -/
def switched? (r : PatternReader) (t : Text) : Option (PatternReader × Text) :=
  let isEnd (c : Char) : Bool := c = ':' || c = ')'
  let letters := t.takeWhile (!isEnd ·)
  let mode := r.mode.switch letters
  match t.dropWhile (!isEnd ·) with
  | [] => none
  | c :: rest =>
    if !PatternMode.isSwitch letters then none
    else if c = ':' then some (r.enter mode, rest)
    else if letters.isEmpty then none
    else some ({ r with mode := mode, level := r.level.add 0, repeatable := false }, rest)

/-- Reads the beginning of a group, behind the opening parenthesis. -/
def group? (r : PatternReader) (t : Text) : Option (PatternReader × Text) :=
  match r.mode.skip t with
  | '?' :: '<' :: rest => r.named? rest
  | '?' :: 'P' :: '<' :: rest => r.named? rest
  | '?' :: rest => r.switched? rest
  | rest => some (r.enter r.mode, rest)

/-- Reads an item outside of classes that begins with this character. A question
mark right behind a repetition belongs to it. -/
def item? (r : PatternReader) (c : Char) (rest : Text) : Option (PatternReader × Text) :=
  if c = '(' then r.group? rest
  else if c = ')' then
    match r.outer with
    | [] => none
    | (m, l) :: outer =>
      let level := l.add (r.level.depth + 1)
      some ({ r with mode := m, level := level, outer := outer, repeatable := true }, rest)
  else if c = '|' then some ({ r with level := r.level.alternative, repeatable := false }, rest)
  else if c = '[' then (r.mode.openClass? rest).map fun (n, rest) => (r.enterClass n, rest)
  else if c = '*' ∨ c = '+' ∨ c = '?' then
    let rest := if rest.head? = some '?' then rest.tail else rest
    if r.repeatable then some ({ r with level := r.level.repeatLast }, rest) else none
  else if c = '\x7b' then none
  else if c = '\\' then (r.mode.escape? rest).map fun (_, rest) => (r.behindItem, rest)
  else if c = '.' ∧ !r.mode.unicode then none
  else some (r.behindItem, rest)

/-- Reads a member of a class that begins with this character, or an operation
on classes, or where a class begins or ends. -/
def member? (r : PatternReader) (c : Char) (rest : Text) : Option (PatternReader × Text) :=
  if c = '[' then
    match PatternMode.namedClass? rest with
    | some (negated, rest) =>
      if negated && !r.mode.unicode then none else some (r.behindItem, rest)
    | none => (r.mode.openClass? rest).map fun (n, rest) => (r.enterClass n, rest)
  else if c = ']' then
    match r.classes with
    | [] => none
    | l :: classes =>
      let level := l.add (r.level.depth + 1)
      some ({ r with level := level, classes := classes, repeatable := true }, rest)
  else if "&-~".toList.contains c ∧ rest.head? = some c then
    some ({ r with level := r.level.operand }, rest.tail)
  else (r.mode.range? c rest).map fun rest => (r.behindItem, rest)

/-- Reads whatever begins with this character. -/
def step? (r : PatternReader) (c : Char) (rest : Text) : Option (PatternReader × Text) :=
  if r.classes.isEmpty then r.item? c rest else r.member? c rest

theorem named?_suffix {r r' : PatternReader} {t rest : Text}
    (h : r.named? t = some (r', rest)) : rest <:+ t := by
  simp only [named?] at h
  split at h
  · cases h
  · next c tail hdrop =>
    split at h
    · cases h
      exact (List.suffix_cons c rest).trans (hdrop ▸ List.dropWhile_suffix _)
    · cases h

theorem switched?_suffix {r r' : PatternReader} {t rest : Text}
    (h : r.switched? t = some (r', rest)) : rest <:+ t := by
  simp only [switched?] at h
  split at h
  · cases h
  · next c tail hdrop =>
    have htail : tail <:+ t := (List.suffix_cons c tail).trans (hdrop ▸ List.dropWhile_suffix _)
    split at h
    · cases h
    · split at h
      · cases h
        exact htail
      · split at h
        · cases h
        · cases h
          exact htail

theorem group?_suffix {r r' : PatternReader} {t rest : Text}
    (h : r.group? t = some (r', rest)) : rest <:+ t := by
  have hskip : r.mode.skip t <:+ t := PatternMode.skip_suffix r.mode t
  rw [group?] at h
  split at h
  · next tail heq =>
    rw [heq] at hskip
    exact (named?_suffix h).trans ((List.suffix_append ['?', '<'] tail).trans hskip)
  · next tail heq =>
    rw [heq] at hskip
    exact (named?_suffix h).trans ((List.suffix_append ['?', 'P', '<'] tail).trans hskip)
  · next tail _ _ heq =>
    rw [heq] at hskip
    exact (switched?_suffix h).trans ((List.suffix_cons '?' tail).trans hskip)
  · cases h
    exact hskip

theorem item?_suffix {r r' : PatternReader} {c : Char} {t rest : Text}
    (h : r.item? c t = some (r', rest)) : rest <:+ t := by
  unfold item? at h
  split at h
  · exact group?_suffix h
  split at h
  · split at h
    · cases h
    · cases h
      exact List.suffix_rfl
  split at h
  · cases h
    exact List.suffix_rfl
  split at h
  · obtain ⟨⟨n, tail⟩, htail, h⟩ := Option.map_eq_some_iff.mp h
    cases h
    exact PatternMode.openClass?_suffix htail
  split at h
  · dsimp only at h
    split at h
    · have hrest := congrArg Prod.snd (Option.some.inj h)
      subst hrest
      split
      · exact List.tail_suffix t
      · exact List.suffix_rfl
    · cases h
  split at h
  · cases h
  split at h
  · obtain ⟨⟨item, tail⟩, htail, h⟩ := Option.map_eq_some_iff.mp h
    cases h
    exact PatternMode.escape?_suffix htail
  split at h
  · cases h
  · cases h
    exact List.suffix_rfl

theorem member?_suffix {r r' : PatternReader} {c : Char} {t rest : Text}
    (h : r.member? c t = some (r', rest)) : rest <:+ t := by
  unfold member? at h
  split at h
  · split at h
    · next negated tail hname =>
      split at h
      · cases h
      · cases h
        exact PatternMode.namedClass?_suffix hname
    · obtain ⟨⟨n, tail⟩, htail, h⟩ := Option.map_eq_some_iff.mp h
      cases h
      exact PatternMode.openClass?_suffix htail
  split at h
  · split at h
    · cases h
    · cases h
      exact List.suffix_rfl
  split at h
  · cases h
    exact List.tail_suffix t
  · obtain ⟨tail, htail, h⟩ := Option.map_eq_some_iff.mp h
    cases h
    exact PatternMode.range?_suffix htail

/-- Every step leaves a suffix of what stands behind the first character. -/
theorem step?_suffix {r r' : PatternReader} {c : Char} {t rest : Text}
    (h : r.step? c t = some (r', rest)) : rest <:+ t := by
  unfold step? at h
  split at h
  · exact item?_suffix h
  · exact member?_suffix h

/-- Whether a text goes on a pattern to its end, where every class and every
group has to be closed, and the pattern must not be too deep. -/
def accepts (r : PatternReader) (t : Text) : Bool :=
  match _hskip : r.mode.skip t with
  | [] => r.outer.isEmpty && r.classes.isEmpty && r.level.depth ≤ maxDepth
  | c :: rest =>
    match _hstep : r.step? c rest with
    | none => false
    | some (r', rest') => accepts r' rest'
termination_by t.length
decreasing_by
  have hle := (step?_suffix _hstep).length_le
  have hlt := (_hskip ▸ PatternMode.skip_suffix r.mode t).length_le
  simp only [List.length_cons] at hlt
  omega

end PatternReader

/-- Whether a text is a pattern. -/
def Text.isPattern (t : Text) : Bool := PatternReader.initial.accepts t

end TargetHelp
