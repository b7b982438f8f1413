import TargetHelp.Text.Property.Cluster
import TargetHelp.Text.Width

/-!
# Characters drawn as one

A cluster is what a reader takes for one character: a letter and its marks, a
syllable of Hangul, two consonants and the sign that links them, two letters
that make a flag, emoji that are joined into one picture. A text is never cut
inside a cluster.

The clusters of a text are found from left to right. The end of what was read
(`ClusterEnd`) decides whether the next character still belongs to it.
-/

namespace TargetHelp

/-- What the end of a cluster may be joined by, apart from marks. -/
inductive ClusterEnd where
  /-- by nothing -/
  | plain
  /-- by whatever comes next -/
  | prepended
  /-- by the second letter of a flag -/
  | flagLetter
  /-- by the rest of a Hangul syllable -/
  | leading
  /-- by another vowel of a Hangul syllable, or by what trails it -/
  | vowel
  /-- by what trails a Hangul syllable -/
  | trailing
  /-- by nothing, or by a picture if a joiner comes first -/
  | pictograph
  /-- by a picture -/
  | joinedPictograph
  /-- by nothing, or by a consonant if a linker comes first -/
  | consonant
  /-- by a consonant -/
  | linkedConsonant
  deriving DecidableEq, Repr

/-- The letters that a Hangul syllable begins with. -/
def isLeadingJamo (c : Char) : Bool :=
  CodePointSet.has [(0x1100, 0x115F), (0xA960, 0xA97C)] c

/-- The vowels of Hangul syllables. -/
def isVowelJamo (c : Char) : Bool := CodePointSet.has [(0x1160, 0x11A7), (0xD7B0, 0xD7C6)] c

/-- The letters that trail a Hangul syllable. -/
def isTrailingJamo (c : Char) : Bool := CodePointSet.has [(0x11A8, 0x11FF), (0xD7CB, 0xD7FB)] c

/-- The composed syllables of Hangul. -/
def isHangulSyllable (c : Char) : Bool := CodePointSet.has [(0xAC00, 0xD7A3)] c

/-- The composed syllables of Hangul that end in a vowel, which is every 28th of
them. -/
def isOpenSyllable (c : Char) : Bool := isHangulSyllable c && (c.toNat - 0xAC00) % 28 = 0

/-- The characters that can be part of a joined picture. -/
def isPictograph (c : Char) : Bool :=
  emojiPresentation.has c || (0xA0 < c.toNat && emojiVariation.has c)

/-- The halfwidth voiced sound marks of Katakana. -/
def isVoicedMark (c : Char) : Bool := CodePointSet.has [(0xFF9E, 0xFF9F)] c

/-- The characters that join any character before them and leave it as it is. -/
def isExtending (c : Char) : Bool :=
  Width.isSkinTone c || isVoicedMark c ||
    (0xA0 < c.toNat && zeroColumns.has c &&
      !(prependers.has c || isVowelJamo c || isTrailingJamo c))

namespace ClusterEnd

/-- The end of a cluster of one character. -/
def ofChar (c : Char) : ClusterEnd :=
  if prependers.has c then .prepended
  else if Width.isFlagLetter c then .flagLetter
  else if isLeadingJamo c then .leading
  else if isVowelJamo c || isOpenSyllable c then .vowel
  else if isTrailingJamo c || isHangulSyllable c then .trailing
  else if isPictograph c then .pictograph
  else if conjunctConsonants.has c then .consonant
  else .plain

/-- The end of a cluster behind a character that extends it. -/
def extended (e : ClusterEnd) (c : Char) : ClusterEnd :=
  match e with
  | .pictograph => if c = Width.joiner then .joinedPictograph else .pictograph
  | .consonant =>
    if conjunctLinkers.has c then .linkedConsonant
    else if c = '\u200C' then .plain
    else .consonant
  | .linkedConsonant => if c = '\u200C' then .plain else .linkedConsonant
  | _ => .plain

/-- The end of a cluster behind the next character, if that belongs to it. -/
def join? (e : ClusterEnd) (c : Char) : Option ClusterEnd :=
  if isExtending c then some (e.extended c)
  else if spacingMarks.has c then some .plain
  else
    match e with
    | .prepended => some (.ofChar c)
    | .flagLetter => if Width.isFlagLetter c then some .plain else none
    | .leading =>
      if isLeadingJamo c || isVowelJamo c || isHangulSyllable c then some (.ofChar c) else none
    | .vowel => if isVowelJamo c || isTrailingJamo c then some (.ofChar c) else none
    | .trailing => if isTrailingJamo c then some .trailing else none
    | .joinedPictograph => if isPictograph c then some .pictograph else none
    | .linkedConsonant => if conjunctConsonants.has c then some .consonant else none
    | _ => none

end ClusterEnd

namespace Text

/-- What a text begins with that still belongs to a cluster, and the rest. -/
def restOfCluster (e : ClusterEnd) : Text → Text × Text
  | [] => ([], [])
  | c :: rest =>
    match e.join? c with
    | none => ([], c :: rest)
    | some e =>
      let (tail, after) := restOfCluster e rest
      (c :: tail, after)

/-- The rest of a cluster and what follows it are the text. -/
theorem restOfCluster_append (e : ClusterEnd) (t : Text) :
    (restOfCluster e t).1 ++ (restOfCluster e t).2 = t := by
  induction t generalizing e with
  | nil => rfl
  | cons c rest ih =>
    rw [restOfCluster]
    split
    · rfl
    · next e' _ => exact congrArg (c :: ·) (ih e')

/-- What follows a cluster is no longer than the text. -/
theorem length_restOfCluster_le (e : ClusterEnd) (t : Text) :
    (restOfCluster e t).2.length ≤ t.length := by
  have happend := congrArg List.length (restOfCluster_append e t)
  rw [List.length_append] at happend
  omega

/-- The number of characters that fit into this many columns, if clusters are
kept whole. The first number says how many fitted before. -/
def fitting (taken room : Nat) : Text → Nat
  | [] => taken
  | c :: rest =>
    match _h : restOfCluster (.ofChar c) rest with
    | (tail, after) =>
      if width (c :: tail) ≤ room then
        fitting (taken + 1 + tail.length) (room - width (c :: tail)) after
      else taken
termination_by t => t.length
decreasing_by
  have hle := length_restOfCluster_le (.ofChar c) rest
  rw [_h] at hle
  exact Nat.lt_succ_of_le hle

end Text

end TargetHelp
