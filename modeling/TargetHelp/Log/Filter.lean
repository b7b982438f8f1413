import TargetHelp.Log.Event
import TargetHelp.Text.Blank
import TargetHelp.Text.Decimal
import TargetHelp.Text.Pattern
import TargetHelp.Text.Property.Alphanumeric

/-!
# Which events are shown

A filter is a list of directives. A directive sets a threshold for the parts of
the program whose names begin with its target, or for all of them if it has no
target. The most specific directive that fits an event decides; an event that
none fits is not shown.

A directive is written `threshold`, `target` or `target=threshold`; a target
may be followed by the name of a span or of a field in brackets. A filter is
written as directives with commas between them, and is not a filter at all if
one of them is not a directive (`Filter.parse?`).

Blanks around a directive are passed over where its parts are looked for, but
not where the parts are cut out: what is cut out is found at the same place of
the whole text. So a blank at the start moves every part.
-/

namespace TargetHelp

/-- How serious an event has to be to be shown. -/
inductive Threshold where
  /-- nothing is shown -/
  | off
  /-- errors are shown -/
  | error
  /-- warnings too -/
  | warn
  /-- notes too -/
  | info
  /-- details too -/
  | debug
  /-- everything is shown -/
  | trace
  deriving DecidableEq, Repr

namespace Threshold

/-- Whether events of a severity are shown. -/
def admits : Threshold → Severity → Bool
  | .off, _ => false
  | .error, _ => false
  | .warn, s => s = .warn
  | .info, s => s = .warn
  | .debug, _ => true
  | .trace, _ => true

/-- The thresholds by their number. -/
def ofNat? : Nat → Option Threshold
  | 0 => some .off
  | 1 => some .error
  | 2 => some .warn
  | 3 => some .info
  | 4 => some .debug
  | 5 => some .trace
  | _ => none

/-- The thresholds by their name in lower case. -/
def names : List (Text × Threshold) :=
  [("off".toList, .off), ("error".toList, .error), ("warn".toList, .warn),
   ("info".toList, .info), ("debug".toList, .debug), ("trace".toList, .trace)]

/-- The number that a text of digits stands for, after an optional plus sign. -/
def number? (t : Text) : Option Nat :=
  let digits := match t with
    | '+' :: rest => rest
    | _ => t
  if digits ≠ [] ∧ digits.all Char.isDigit then
    some (digits.foldl (fun n c => 10 * n + (c.toNat - '0'.toNat)) 0)
  else none

/-- Reads a threshold: its number, or its name in letters of either case. -/
def parse? (t : Text) : Option Threshold :=
  match number? t with
  | some n => ofNat? n
  | none => names.lookup (t.map Char.toLower)

end Threshold

/-- What sets a threshold for some events. -/
structure Directive where
  /-- what the origin of an event must begin with; without a target every
  origin fits -/
  target : Option Text
  /-- the name of the span that an event must lie in -/
  span : Option Text
  /-- the condition on the fields of an event -/
  field : Option Text
  /-- how serious an event has to be -/
  threshold : Threshold
  deriving DecidableEq, Repr

namespace Directive

/-- The characters that a target may begin with. -/
def isStart (c : Char) : Bool := c = '-' || c = ':' || c = '_' || isAlphanumeric c

/-- Whether a text can be asked of the value of a field: a number or a
pattern. -/
def isValue (t : Text) : Bool := Text.isDecimal t || Text.isPattern t

/-- Whether a text is a condition on a field: its name, or its name and its
value with an equals sign in between. What follows another equals sign is not
looked at. -/
def isField (t : Text) : Bool := !t.isEmpty && ((t.splitOn '=')[1]?.all isValue)

/-- A directive that says nothing yet. -/
def blank : Directive := ⟨none, none, none, .trace⟩

/-- Where the reader of a directive stands, and the byte at which the part that
it reads begins. -/
inductive Place where
  /-- at the start -/
  | start
  /-- in a target, or in a threshold without a target -/
  | target (start : Nat)
  /-- in the name of a span -/
  | span (start : Nat)
  /-- in a condition on a field -/
  | field (start : Nat)
  /-- behind a condition on a field -/
  | fieldEnd
  /-- behind the brackets -/
  | spanEnd
  /-- in a threshold -/
  | threshold (start : Nat)
  deriving DecidableEq, Repr

/-- Reads the character at a byte of a directive. -/
def step? (whole : Text) (d : Directive) (n : Nat) (c : Char) : Place → Option (Place × Directive)
  | .start =>
    if c = '[' then some (.span (n + 1), d)
    else if isStart c then some (.target n, d)
    else none
  | .target k =>
    if c = '=' then some (.threshold (n + 1), { d with target := some (whole.slice k n) })
    else if c = '[' then some (.span (n + 1), { d with target := some (whole.slice k n) })
    else some (.target k, d)
  | .span k =>
    let name := whole.slice k n
    if c = ']' then some (.spanEnd, { d with span := some name })
    else if c = '\x7b' then
      some (.field (n + 1), { d with span := if name.isEmpty then none else some name })
    else some (.span k, d)
  | .field k =>
    if c ≠ '\x7d' then some (.field k, d)
    else if isField (whole.slice k n) then
      some (.fieldEnd, { d with field := some (whole.slice k n) })
    else none
  | .fieldEnd => if c = ']' then some (.spanEnd, d) else none
  | .spanEnd => if c = '=' then some (.threshold (n + 1), d) else none
  | .threshold k => some (.threshold k, d)

/-- Ends a directive. A threshold goes on to the end of the whole text; nothing
means everything. -/
def finish? (whole : Text) (d : Directive) : Place → Option Directive
  | .target k =>
    let t := whole.dropBytes k
    match Threshold.parse? t with
    | some threshold => some { d with threshold := threshold }
    | none => some { d with target := some t }
  | .threshold k =>
    let t := whole.dropBytes k
    if t.isEmpty then some d
    else (Threshold.parse? t).map fun threshold => { d with threshold := threshold }
  | .spanEnd => some d
  | _ => none

/-- Reads a directive from a byte on. -/
def parseFrom? (whole : Text) (d : Directive) (place : Place) (n : Nat) : Text → Option Directive
  | [] => finish? whole d place
  | c :: rest =>
    match step? whole d n c place with
    | some (place, d) => parseFrom? whole d place (n + c.utf8Size) rest
    | none => none

/-- Reads a directive. -/
def parse? (t : Text) : Option Directive := parseFrom? t blank .start 0 (Text.trim t)

/-- Whether a directive says something about an event. No event lies in a
span, and a condition on the value of a field is one on spans as well. -/
def fits (d : Directive) (e : Event) : Bool :=
  d.span.isNone &&
    (match d.target with
      | none => true
      | some target => target.isPrefixOf e.origin) &&
    (match d.field with
      | none => true
      | some name => ("message".toList :: e.fields.map (·.1)).contains name)

/-- Whether a directive is at least as specific as another: by its target
first, then by its field. -/
def outranks (d d' : Directive) : Bool :=
  match compare (d.target.map List.length) (d'.target.map List.length) with
  | .lt => false
  | .gt => true
  | .eq => (compare d.field d'.field).isGE

end Directive

/-- The directives that decide which events are shown, in the order in which
they are written. -/
abbrev Filter := List Directive

namespace Filter

/-- Reads a filter. Commas with nothing in between do no harm. -/
def parse? (t : Text) : Option Filter :=
  ((t.splitOn ',').filter (· ≠ [])).mapM Directive.parse?

/-- The filter that shows everything from a threshold on. -/
def ofThreshold (threshold : Threshold) : Filter := [⟨none, none, none, threshold⟩]

/-- The most specific of the directives that fit an event, the last of those
that are equally specific. -/
def decisive? (filter : Filter) (e : Event) : Option Directive :=
  (filter.filter (·.fits e)).foldl
    (fun best d =>
      match best with
      | none => some d
      | some d' => if d.outranks d' then some d else some d')
    none

/-- Whether an event is shown. -/
def shows (filter : Filter) (e : Event) : Bool :=
  match filter.decisive? e with
  | some d => d.threshold.admits e.severity
  | none => false

/-- The filter for this many requests for more log lines. -/
def ofVerbosity : Nat → Filter
  | 0 => ofThreshold .warn
  | 1 => ofThreshold .debug
  | _ => ofThreshold .trace

/-- The filter that is in force: the one that is written down, if there is one
and it can be read, and otherwise the one for the verbosity. -/
def choose (written : Option Text) (verbosity : Nat) : Filter :=
  (written.bind parse?).getD (ofVerbosity verbosity)

end Filter

/-- The log lines of these events. -/
def logText (style : LogStyle) (filter : Filter) (events : List Event) : Text :=
  (events.filter filter.shows).flatMap (Event.line style)

end TargetHelp
