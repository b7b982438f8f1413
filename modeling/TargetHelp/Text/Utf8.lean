import TargetHelp.Text.Basic

/-!
# Decoding UTF-8 without failing

Bytes become characters one at a time: a small machine remembers which bytes
the character it is inside of still owes. Where the next byte cannot continue
that character, everything read of it so far becomes one replacement
character, and the byte is looked at afresh. So each maximal beginning of a
character that is broken off counts once, and so does each byte that begins
none.

The main statement is `decode_newline`: a newline byte is a newline wherever
it stands, so text may be cut into lines before or after it is decoded.
-/

namespace TargetHelp.Utf8

/-- The character that stands for bytes that are no character. -/
def replacement : Char := '\uFFFD'

/-- Where the decoder stands between two bytes. -/
inductive State where
  /-- between two characters -/
  | ground
  /-- inside a character: the number read so far, the least and the greatest
  byte that may come next, and how many more bytes follow that one -/
  | inside (value : Nat) (low high : UInt8) (more : Nat)
  deriving DecidableEq, Repr

/-- The first byte of a character: what it decodes to at once, and the state
after it. -/
def start (b : UInt8) : Text × State :=
  if b < 0x80 then ([Char.ofNat b.toNat], .ground)
  else if 0xC2 ≤ b ∧ b ≤ 0xDF then ([], .inside (b.toNat - 0xC0) 0x80 0xBF 0)
  else if b = 0xE0 then ([], .inside 0 0xA0 0xBF 1)
  else if b = 0xED then ([], .inside 0xD 0x80 0x9F 1)
  else if 0xE1 ≤ b ∧ b ≤ 0xEF then ([], .inside (b.toNat - 0xE0) 0x80 0xBF 1)
  else if b = 0xF0 then ([], .inside 0 0x90 0xBF 2)
  else if 0xF1 ≤ b ∧ b ≤ 0xF3 then ([], .inside (b.toNat - 0xF0) 0x80 0xBF 2)
  else if b = 0xF4 then ([], .inside 4 0x80 0x8F 2)
  else ([replacement], .ground)

/-- One byte: the characters that it completes, and the state after it. -/
def step : State → UInt8 → Text × State
  | .ground, b => start b
  | .inside value low high more, b =>
    if low ≤ b ∧ b ≤ high then
      let value := value * 64 + (b.toNat - 0x80)
      match more with
      | 0 => ([Char.ofNat value], .ground)
      | more + 1 => ([], .inside value 0x80 0xBF more)
    else
      (replacement :: (start b).1, (start b).2)

/-- The bytes from a state on. A character that the end cuts short is one
replacement character. -/
def decodeFrom : State → Bytes → Text
  | .ground, [] => []
  | .inside .., [] => [replacement]
  | s, b :: bs => (step s b).1 ++ decodeFrom (step s b).2 bs

/-- The text that the bytes stand for. -/
def decode (bs : Bytes) : Text := decodeFrom .ground bs

theorem decodeFrom_cons (s : State) (b : UInt8) (bs : Bytes) :
    decodeFrom s (b :: bs) = (step s b).1 ++ decodeFrom (step s b).2 bs := by
  cases s <;> rfl

/-! ## Characters of ASCII -/

/-- The byte of a newline. -/
def newline : UInt8 := 10

/-- The machine owes only bytes beyond ASCII. -/
def State.Wide : State → Prop
  | .ground => True
  | .inside _ low _ _ => 0x80 ≤ low

theorem wide_start (b : UInt8) : (start b).2.Wide := by
  unfold start
  repeat' split
  all_goals simp only [State.Wide]
  all_goals decide

theorem wide_step {s : State} (b : UInt8) : (step s b).2.Wide := by
  cases s with
  | ground => exact wide_start b
  | inside value low high more =>
    simp only [step]
    split
    · cases more with
      | zero => trivial
      | succ more => simp only [State.Wide]; decide
    · exact wide_start b

/-- A byte of ASCII ends whatever came before it and is a character itself. -/
theorem decodeFrom_ascii {s : State} (hs : s.Wide) {x : UInt8} (hx : x < 0x80) (a b : Bytes) :
    decodeFrom s (a ++ x :: b) = decodeFrom s a ++ Char.ofNat x.toNat :: decode b := by
  have hstart : start x = ([Char.ofNat x.toNat], .ground) := if_pos hx
  induction a generalizing s with
  | nil =>
    cases s with
    | ground => simp only [List.nil_append, decodeFrom, step, hstart]; rfl
    | inside value low high more =>
      have hlow : ¬ low ≤ x := fun h => UInt8.not_lt.mpr (UInt8.le_trans hs h) hx
      simp only [List.nil_append, decodeFrom, step, hlow, false_and, if_false, hstart]
      rfl
  | cons y a ih =>
    simp only [List.cons_append, decodeFrom, ih (wide_step y), List.append_assoc]

/-- A newline byte is a newline wherever it stands. -/
theorem decode_newline (a b : Bytes) :
    decode (a ++ newline :: b) = decode a ++ '\n' :: decode b :=
  decodeFrom_ascii (s := .ground) trivial (by decide) a b

end TargetHelp.Utf8
