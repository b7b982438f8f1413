import TargetHelp.Text.Blank
import TargetHelp.Variables

/-!
# Templates

A text may refer to variables: `$(name)` or `${name}` stands for the values of
a variable. Reading a text from the left, the first reference that begins at a
position is taken whole, and any other character stands for itself. The result
is a `Template`.

Two things are done with a template. It is *expanded* to every combination of
the values that its references may take, the last reference changing fastest,
or it is *substituted* with the first value of each. A reference whose variable
has no values stands for itself in both.
-/

namespace TargetHelp

/-- The brackets that may enclose the name in a reference. -/
inductive Bracket where
  /-- `(` and `)` -/
  | round
  /-- `{` and `}` -/
  | curly
  deriving DecidableEq, Repr

namespace Bracket

/-- The bracket before the name. -/
def opening : Bracket → Char
  | .round => '('
  | .curly => '\x7b'

/-- The bracket behind the name. -/
def closing : Bracket → Char
  | .round => ')'
  | .curly => '\x7d'

/-- The bracket that a character opens. -/
def ofOpening? (c : Char) : Option Bracket :=
  if c = Bracket.round.opening then some .round
  else if c = Bracket.curly.opening then some .curly
  else none

end Bracket

/-- The characters that a variable's name never contains. -/
def isNameBreak (c : Char) : Bool := isBlank c || c = ':' || c = '#' || c = '='

/-- A reference to a variable. -/
structure Reference where
  /-- the brackets around the name -/
  bracket : Bracket
  /-- the name of the variable -/
  name : Text
  deriving DecidableEq, Repr

namespace Reference

/-- The characters of a name between these brackets: a name holds neither of
them, so that brackets balance. -/
def isNameChar (b : Bracket) (c : Char) : Bool :=
  !isNameBreak c && c ≠ b.opening && c ≠ b.closing

/-- A reference as it is written. -/
def written (r : Reference) : Text := '$' :: r.bracket.opening :: r.name ++ [r.bracket.closing]

/-- Reads the name and the closing bracket of a reference, with what is left
behind them. -/
def readName? (b : Bracket) (t : Text) : Option (Reference × Text) :=
  match t.dropWhile (isNameChar b) with
  | [] => none
  | c :: rest =>
    if t.takeWhile (isNameChar b) ≠ [] ∧ c = b.closing then
      some (⟨b, t.takeWhile (isNameChar b)⟩, rest)
    else none

/-- Reads the reference that a text begins with, with what is left behind it. -/
def read? : Text → Option (Reference × Text)
  | '$' :: c :: rest => (Bracket.ofOpening? c).bind (readName? · rest)
  | _ => none

theorem eq_of_readName? {b : Bracket} {t rest : Text} {r : Reference}
    (h : readName? b t = some (r, rest)) :
    t = r.name ++ b.closing :: rest ∧ r.bracket = b ∧ r.name ≠ [] ∧
      ∀ c ∈ r.name, isNameChar b c = true := by
  unfold readName? at h
  split at h
  · cases h
  · next c rest' hdrop =>
    split at h
    · next hc =>
      simp only [Option.some.injEq, Prod.mk.injEq] at h
      obtain ⟨rfl, rfl⟩ := h
      refine ⟨?_, rfl, hc.1, fun x hx => List.all_eq_true.mp List.all_takeWhile x hx⟩
      rw [← hc.2, ← hdrop, List.takeWhile_append_dropWhile]
    · cases h

/-- A reference that was read is what the text begins with. -/
theorem eq_of_read? {t rest : Text} {r : Reference} (h : read? t = some (r, rest)) :
    t = r.written ++ rest := by
  unfold read? at h
  split at h
  · next c rest' =>
    obtain ⟨b, hb, hr⟩ := Option.bind_eq_some_iff.mp h
    obtain ⟨ht, hbr, -, -⟩ := eq_of_readName? hr
    have hc : c = b.opening := by
      unfold Bracket.ofOpening? at hb
      split at hb
      · cases hb; assumption
      · split at hb
        · cases hb; assumption
        · cases hb
    simp [written, ht, hbr, hc]
  · cases h

theorem length_lt_of_read? {t rest : Text} {r : Reference} (h : read? t = some (r, rest)) :
    rest.length < t.length := by
  rw [eq_of_read? h]
  simp [written]
  omega

end Reference

/-- A part of a template. -/
inductive Part where
  /-- a character that stands for itself -/
  | literal (c : Char)
  /-- a reference to a variable -/
  | reference (r : Reference)
  deriving DecidableEq, Repr

/-- A text whose references have been found. -/
abbrev Template := List Part

namespace Part

/-- A part as it is written. -/
def written : Part → Text
  | .literal c => [c]
  | .reference r => r.written

/-- What a part may stand for. A reference whose variable has no values stands
for itself. -/
def choices (vars : Variables) : Part → List Text
  | .literal c => [[c]]
  | .reference r =>
    match vars.values r.name with
    | [] => [r.written]
    | values => values

/-- What a part stands for when only one text is wanted. -/
def value (vars : Variables) : Part → Text
  | .literal c => [c]
  | .reference r => (vars.values r.name).headD r.written

end Part

namespace Template

/-- Finds the references of a text, from the left. -/
def parse (t : Text) : Template :=
  match t with
  | [] => []
  | c :: rest =>
    match _h : Reference.read? (c :: rest) with
    | some (r, after) => .reference r :: parse after
    | none => .literal c :: parse rest
termination_by t.length
decreasing_by
  · exact Reference.length_lt_of_read? _h
  · simp

/-- A template as it is written. -/
def written (t : Template) : Text := t.flatMap Part.written

/-- Every combination of what the parts may stand for, the last part changing
fastest. -/
def expand (vars : Variables) : Template → List Text
  | [] => [[]]
  | part :: rest => (part.choices vars).flatMap fun v => (expand vars rest).map (v ++ ·)

/-- The template with each part replaced by the first text that it may stand
for. -/
def substitute (vars : Variables) (t : Template) : Text := t.flatMap (Part.value vars)

@[simp] theorem parse_nil : parse [] = [] := by
  rw [parse]

theorem parse_of_read? {t rest : Text} {r : Reference} (h : Reference.read? t = some (r, rest)) :
    parse t = .reference r :: parse rest := by
  match t, h with
  | c :: t, h =>
    rw [parse]
    split
    · next r' after h' =>
      rw [h, Option.some.injEq, Prod.mk.injEq] at h'
      rw [← h'.1, ← h'.2]
    · next h' => rw [h] at h'; cases h'

theorem parse_cons_of_read?_eq_none {c : Char} {t : Text}
    (h : Reference.read? (c :: t) = none) : parse (c :: t) = .literal c :: parse t := by
  rw [parse]
  split
  · next h' => rw [h] at h'; cases h'
  · rfl

/-- What holds of the empty text, of a text that begins with a reference as soon
as it holds behind that reference, and of any other text as soon as it holds
behind the first character, holds of every text. -/
@[elab_as_elim]
theorem parse_induction {motive : Text → Prop} (nil : motive [])
    (reference : ∀ t r rest, Reference.read? t = some (r, rest) → motive rest → motive t)
    (literal : ∀ c t, Reference.read? (c :: t) = none → motive t → motive (c :: t)) (t : Text) :
    motive t := by
  induction t using parse.induct with
  | case1 => exact nil
  | case2 c t r rest hread ih => exact reference (c :: t) r rest hread ih
  | case3 c t hread ih => exact literal c t hread ih

@[simp] theorem written_nil : written [] = [] := rfl

theorem written_cons (part : Part) (t : Template) :
    written (part :: t) = part.written ++ written t := rfl

/-- Finding the references of a text loses nothing of it. -/
@[simp] theorem written_parse (t : Text) : written (parse t) = t := by
  induction t using parse_induction with
  | nil => rw [parse_nil, written_nil]
  | reference t r rest hread ih =>
    rw [parse_of_read? hread, written_cons, ih]
    exact (Reference.eq_of_read? hread).symm
  | literal c t hread ih =>
    rw [parse_cons_of_read?_eq_none hread, written_cons, ih]
    rfl

end Template

namespace Variables

/-- Every text that a text with references may stand for. -/
def expand (vars : Variables) (t : Text) : List Text := (Template.parse t).expand vars

/-- A text with each reference replaced by its variable's first value. -/
def replace (vars : Variables) (t : Text) : Text := (Template.parse t).substitute vars

end Variables

end TargetHelp
