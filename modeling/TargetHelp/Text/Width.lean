import TargetHelp.Text.Basic
import TargetHelp.Text.Property.Columns
import TargetHelp.Text.Property.Emoji

/-!
# The columns that a text takes

Most characters take one column of a terminal, marks drawn on another
character take none, wide ones take two (`columns`). Some characters are drawn
together with those after them: emoji joined into one picture, a letter pair
that has a shape of its own. So a text is measured from its end, and for each
character the state says what the text to its right begins with (`Right`). The
width of a text is the sum of what its characters add (`width`).
-/

namespace TargetHelp

/-- The columns that a character takes when it stands alone. Controls take
one. -/
def columns (c : Char) : Nat :=
  if c.toNat ≤ 0xA0 then 1
  else if c.toNat = 0x17D8 then 3
  else if zeroColumns.has c then 0
  else if twoColumns.has c then 2
  else 1

namespace Width

/-- Letters that may be drawn as one with the letters before them. -/
inductive Letter where
  /-- Hebrew lamed -/
  | lamed
  /-- Buginese ya -/
  | ya
  /-- Buginese ya, joined to the vowel sign before it -/
  | vowelYa
  /-- a Tifinagh consonant -/
  | tifinagh
  /-- the Tifinagh joiner and a consonant -/
  | tifinaghPair
  /-- the Old Turkic letter for i -/
  | turkicI
  /-- a Khmer letter that can be written below another -/
  | khmer
  /-- a Lisu tone mark that ends a pair -/
  | lisuTone
  deriving DecidableEq, Repr

/-- What the text to the right of a character begins with, as far as it
changes how the character is drawn. -/
inductive Follower where
  /-- nothing that matters -/
  | other
  /-- a newline -/
  | newline
  /-- an emoji -/
  | emoji
  /-- a joiner and an emoji -/
  | joinedEmoji
  /-- a keycap mark, a joiner and an emoji -/
  | joinedKeycap
  /-- a skin tone -/
  | skinTone
  /-- one letter of a flag -/
  | flagLetter
  /-- several letters of flags -/
  | flagLetters
  /-- letters of flags before a joiner and an emoji -/
  | joinedFlag (letters : Nat)
  /-- the end of a tagged flag before a joiner and an emoji: how many letters
  the tag ends in, and how many digits stand before them -/
  | joinedTag (letters digits : Nat)
  /-- Arabic alef -/
  | alef
  /-- the Kirat Rai vowel sign e -/
  | kiratE
  /-- the Kirat Rai vowel sign ai, or two signs that are drawn like it -/
  | kiratAi
  /-- a letter that may join with what is before it, and whether a joiner
  stands in between -/
  | letter (l : Letter) (joined : Bool)
  deriving DecidableEq, Repr

/-- A variation selector, which says how the character before it is drawn. -/
inductive Selector where
  /-- no selector -/
  | absent
  /-- as text -/
  | text
  /-- as an emoji -/
  | emoji
  /-- as a sign of full width, if it is a quotation mark -/
  | fullWidth
  deriving DecidableEq, Repr

/-- What stands to the right of a character: a variation selector, and what
comes after that. -/
structure Right where
  /-- the selector right behind the character -/
  selector : Selector
  /-- what the text after the selector begins with -/
  follower : Follower
  deriving DecidableEq, Repr

/-- The end of the text. -/
def Right.none : Right := ⟨.absent, .other⟩

/-- A follower without a selector before it. -/
def Right.of (f : Follower) : Right := ⟨.absent, f⟩

/-- The zero-width joiner. -/
def joiner : Char := '\u200D'

/-- The letters of flags. -/
def isFlagLetter (c : Char) : Bool := CodePointSet.has [(0x1F1E6, 0x1F1FF)] c

/-- The skin tones of emoji. -/
def isSkinTone (c : Char) : Bool := CodePointSet.has [(0x1F3FB, 0x1F3FF)] c

/-- The consonants of Tifinagh. -/
def isTifinagh (c : Char) : Bool := CodePointSet.has [(0x2D31, 0x2D65), (0x2D6F, 0x2D6F)] c

/-- Characters that are emoji of two columns unless a selector makes them
text, in which case they take one. Ideographs in squares keep two. -/
def isTextVariation (c : Char) : Bool :=
  emojiVariation.has c && twoColumns.has c &&
    !CodePointSet.has [(0x3030, 0x303D), (0x3297, 0x3299), (0x1F200, 0x1F2FF)] c

/-- Quotation marks that a selector can make as wide as an ideograph. -/
def isQuotationMark (c : Char) : Bool :=
  c = '\u2018' || c = '\u2019' || c = '\u201C' || c = '\u201D'

/-- The tags that stand for letters. -/
def isTagLetter (c : Char) : Bool := CodePointSet.has [(0xE0061, 0xE007A)] c

/-- The tags that stand for digits. -/
def isTagDigit (c : Char) : Bool := CodePointSet.has [(0xE0030, 0xE0039)] c

/-- Characters that do not part lam and alef. -/
def isArabicTransparent (c : Char) : Bool := columns c = 0 && !parting.has c

/-- The forms of Arabic lam. -/
def isLam (c : Char) : Bool :=
  CodePointSet.has [(0x644, 0x644), (0x6B5, 0x6B8), (0x76A, 0x76A), (0x8A6, 0x8A6),
    (0x8C7, 0x8C7)] c

/-- Characters that do not part two letters that are drawn as one. -/
def isLetterTransparent (c : Char) : Bool :=
  CodePointSet.has [(0x34F, 0x34F), (0x17B4, 0x17B5), (0x180B, 0x180D), (0x180F, 0x180F),
    (0x200D, 0x200D), (0xFE00, 0xFE0F), (0xE0100, 0xE01EF)] c

/-- What a character beyond ASCII is to the one before it. -/
def Follower.ofChar (c : Char) : Follower :=
  if isSkinTone c then .skinTone
  else if isFlagLetter c then .flagLetter
  else if emojiPresentation.has c then .emoji
  else if CodePointSet.has [(0x622, 0x623), (0x625, 0x625), (0x627, 0x627), (0x671, 0x673),
      (0x675, 0x675), (0x773, 0x774), (0x870, 0x882)] c then .alef
  else if c = '\u05DC' then .letter .lamed false
  else if c = '\u1A10' then .letter .ya false
  else if isTifinagh c then .letter .tifinagh false
  else if c = Char.ofNat 0x10C03 then .letter .turkicI false
  else if CodePointSet.has [(0x1780, 0x1782), (0x1784, 0x1787), (0x1789, 0x178C),
      (0x178E, 0x1793), (0x1795, 0x1798), (0x179B, 0x179D), (0x17A0, 0x17A0), (0x17A2, 0x17A2),
      (0x17A7, 0x17A7), (0x17AB, 0x17AC), (0x17AF, 0x17AF)] c then .letter .khmer false
  else if c = '\uA4FC' || c = '\uA4FD' then .letter .lisuTone false
  else if c = Char.ofNat 0x16D67 then .kiratE
  else if c = Char.ofNat 0x16D68 then .kiratAi
  else .other

/-- Whether a follower stays in sight behind a selector that means nothing to
the character before it. -/
def Follower.isSeenThrough : Follower → Bool
  | .alef => true
  | .letter .. => true
  | _ => false

/-- Whether an emoji before this follower joins the emoji in it. -/
def Follower.joinsEmoji : Follower → Bool
  | .joinedEmoji => true
  | .joinedKeycap => true
  | _ => false

/-- The follower of a character that the selector means nothing to. -/
def Right.past (right : Right) : Follower :=
  if right.selector = .absent || right.follower.isSeenThrough then right.follower else .other

/-- How a letter adds to a text whose rest begins with a letter, if the two are
drawn as one. -/
def Letter.combine (c : Char) (joined : Bool) : Letter → Option (Int × Right)
  | .lamed => if joined && c = '\u05D0' then some (0, .none) else none
  | .ya => if joined && c = '\u1A17' then some (0, .of (.letter .vowelYa false)) else none
  | .vowelYa => if c = '\u1A15' then some (0, .none) else none
  | .tifinagh =>
    if c = '\u2D7F' then some (1, .of (.letter .tifinaghPair false))
    else if joined && isTifinagh c then some (0, .none)
    else none
  | .tifinaghPair => if isTifinagh c then some (-1, .none) else none
  | .turkicI => if joined && c = Char.ofNat 0x10C32 then some (0, .none) else none
  | .khmer => if c = '\u17D2' then some (-1, .none) else none
  | .lisuTone => if CodePointSet.has [(0xA4F8, 0xA4FB)] c then some (0, .none) else none

/-- How a character adds to a text, if it is drawn as one with what follows. -/
def Follower.combine (c : Char) : Follower → Option (Int × Right)
  | .other => none
  | .newline => none
  | .emoji => if c = joiner then some (0, .of .joinedEmoji) else none
  | .joinedEmoji =>
    if c = '\u20E3' then some (0, .of .joinedKeycap)
    else if isFlagLetter c then some (1, .of (.joinedFlag 1))
    else if isSkinTone c then some (0, .of .skinTone)
    else if c = Char.ofNat 0xE007F then some (0, .of (.joinedTag 0 0))
    else if emojiPresentation.has c then some (0, .of .emoji)
    else none
  | .joinedKeycap => none
  | .skinTone =>
    if emojiModifierBase.has c then some (0, .of .emoji)
    else if c = joiner then some (0, .of .joinedEmoji)
    else none
  | .flagLetter => if isFlagLetter c then some (1, .of .flagLetters) else none
  | .flagLetters =>
    if isFlagLetter c then some (1, .of .flagLetters)
    else if c = joiner then some (0, .of .joinedEmoji)
    else none
  | .joinedFlag n =>
    if isFlagLetter c then some (if n % 2 = 1 then -1 else 3, .of (.joinedFlag (n + 1)))
    else if c = joiner && 2 ≤ n then some (0, .of .joinedEmoji)
    else none
  | .joinedTag letters digits =>
    if isTagLetter c && digits = 0 && letters < 6 then some (0, .of (.joinedTag (letters + 1) 0))
    else if isTagDigit c && letters < 5 && digits < 3 then
      some (0, .of (.joinedTag letters (digits + 1)))
    else if c = Char.ofNat 0x1F3F4 && (digits = 3 || digits = 0 && 3 ≤ letters) then
      some (0, .of .emoji)
    else none
  | .alef =>
    if isArabicTransparent c then some (0, .of .alef)
    else if isLam c then some (0, .none)
    else none
  | .kiratE =>
    if c = Char.ofNat 0x16D63 then some (0, .none)
    else if c = Char.ofNat 0x16D67 then some (0, .of .kiratAi)
    else if c = Char.ofNat 0x16D68 then some (1, .of .kiratE)
    else if c = Char.ofNat 0x16D69 then some (0, .none)
    else none
  | .kiratAi => if c = Char.ofNat 0x16D63 then some (0, .none) else none
  | .letter l joined =>
    if c = joiner then some (0, .of (.letter l true))
    else if isLetterTransparent c then some (0, .of (.letter l joined))
    else l.combine c joined

/-- How many columns a character adds in front of a text, and what the longer
text begins with. -/
def place (c : Char) (right : Right) : Int × Right :=
  let follower := right.past
  let seen := if follower.isSeenThrough then follower else .other
  if right.selector = .emoji && emojiVariation.has c then
    (if right.follower.joinsEmoji then 0 else 2, .of .emoji)
  else if c = '\r' && follower = .newline then (0, .none)
  else if c.toNat ≤ 0xA0 then (1, .of (if c = '\n' then .newline else .other))
  else if c = '\uFE0F' then (0, ⟨.emoji, if follower.joinsEmoji then follower else seen⟩)
  else if c = '\uFE0E' then (0, ⟨.text, seen⟩)
  else if c = '\uFE01' then (0, ⟨.fullWidth, seen⟩)
  else if right.selector = .text && isTextVariation c then (1, .none)
  else if right.selector = .fullWidth && isQuotationMark c then (2, .none)
  else (follower.combine c).getD (columns c, .of (.ofChar c))

end Width

/-- The number of columns that a text takes on a terminal. -/
def width (t : Text) : Nat :=
  (t.foldr (fun c after => let (added, right) := Width.place c after.2; (after.1 + added, right))
    ((0 : Int), Width.Right.none)).1.toNat

end TargetHelp
