import TargetHelp.Text.Basic

/-!
# Text without terminal control

Messages that repeat what the user wrote leave out whatever would control a
terminal: escape sequences, and every control character that is no blank.

A reader of the text knows where it stands with respect to escape sequences
(`ControlState`), and whether it has just shown a character. Blanks are shown
inside most sequences as well, and once a character was shown so are all that
follow, up to the next control character: only there does a sequence that was
begun go on.
-/

namespace TargetHelp

/-- Where a reader stands with respect to escape sequences. -/
inductive ControlState where
  /-- outside a sequence -/
  | ground
  /-- behind the escape character -/
  | escape
  /-- behind the escape character and more of the sequence's beginning -/
  | intermediate
  /-- inside a sequence with parameters -/
  | parameters
  /-- inside a command of the operating system -/
  | command
  /-- at the beginning of a device's control string -/
  | deviceEntry
  /-- inside the parameters of a device's control string -/
  | deviceParameters
  /-- behind the parameters of a device's control string -/
  | deviceIntermediate
  /-- inside another string, or the body of a device's -/
  | string
  deriving DecidableEq, Repr

/-- The control characters that are blanks. -/
def isBlankControl (c : Char) : Bool := c = '\t' || c = '\n' || c = '\x0c' || c = '\r'

/-- The characters that are shown: all but the control characters of ASCII, and
of these the blanks. -/
def isShown (c : Char) : Bool := (c ≥ ' ' && c ≠ '\x7f') || isBlankControl c

/-- Whether a character lies between two others, both included. -/
def isWithin (low high c : Char) : Bool := low ≤ c && c ≤ high

/-- Whether the byte that terminates strings is among those of a character. -/
def holdsTerminator (c : Char) : Bool := (String.utf8EncodeChar c).contains 0x9c

namespace ControlState

/-- Whether a character is shown in a state. -/
def shows : ControlState → Char → Bool
  | .ground, c => isShown c
  | .escape, c => isBlankControl c
  | .intermediate, c => isBlankControl c
  | .parameters, c => isBlankControl c
  | _, _ => false

/-- The state behind a character that is not shown. -/
def step (s : ControlState) (c : Char) : ControlState :=
  if c = '\x1b' then .escape
  else if c = '\x18' || c = '\x1a' then .ground
  else
    match s with
    | .ground => .ground
    | .escape =>
      if c = '[' then .parameters
      else if c = ']' then .command
      else if c = 'P' then .deviceEntry
      else if c = 'X' || c = '^' || c = '_' then .string
      else if isWithin ' ' '/' c then .intermediate
      else if isWithin '0' '~' c then .ground
      else .escape
    | .intermediate => if isWithin '0' '~' c then .ground else .intermediate
    | .parameters => if isWithin '@' '~' c then .ground else .parameters
    | .command => if c = '\x07' then .ground else .command
    | .deviceEntry =>
      if isWithin ' ' '/' c then .deviceIntermediate
      else if isWithin '0' '?' c then .deviceParameters
      else if isWithin '@' '~' c then .string
      else .deviceEntry
    | .deviceParameters =>
      if isWithin ' ' '/' c then .deviceIntermediate
      else if isWithin '<' '~' c then .string
      else .deviceParameters
    | .deviceIntermediate => if isWithin '0' '~' c then .string else .deviceIntermediate
    | .string => if holdsTerminator c then .ground else .string

/-- The state behind a character that is shown. A character beyond ASCII ends
the sequence that was begun. -/
def behind (s : ControlState) (c : Char) : ControlState := if c ≤ '\x7f' then s else .ground

end ControlState

namespace Text

/-- What is left of a text, from a state on, where `flowing` says whether the
last character was shown. -/
def withoutControlFrom (flowing : Bool) (s : ControlState) : Text → Text
  | [] => []
  | c :: rest =>
    if (if flowing then isShown c else s.shows c) then
      c :: withoutControlFrom true (s.behind c) rest
    else withoutControlFrom false (s.step c) rest

/-- A text without what would control a terminal. -/
def withoutControl (t : Text) : Text := withoutControlFrom false .ground t

end Text

end TargetHelp
