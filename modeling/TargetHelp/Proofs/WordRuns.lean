import Mathlib.Data.List.Basic
import TargetHelp.Text.Words

/-!
# Words of plain values and of broken ones

A value is cut into words the way a command line is, or, where that fails, at
its blanks. The second way gives the maximal runs of characters that are not
blank (`Runs`, `Text.runs_iff`).

The first way gives the same words as long as nothing in the value has a meaning
of its own: no quote, no backslash, no blank that does not separate words, and
no word that would be a comment (`Text.quotedWords?_of_runs`). It fails exactly
if a quote stays open. That is said without following the reader
(`OpenQuote`): a value is cut into what stands outside quotes and into quoted
parts, and behind the last of these stands a quote that nothing ends. The reader
and this description go through a value side by side, character by character
(`Text.quotedWords?_eq_none_iff`).
-/

namespace TargetHelp

/-! ## Runs -/

/-- These are the maximal runs of characters that are not blank, in order. -/
inductive Runs : Text → List Text → Prop where
  /-- there is none in an empty text -/
  | nil : Runs [] []
  /-- a blank belongs to none -/
  | blank {c : Char} {t : Text} {ws : List Text} : isBlank c = true → Runs t ws → Runs (c :: t) ws
  /-- a run goes on to the next blank, or to the end -/
  | run {w t : Text} {ws : List Text} : w ≠ [] → (∀ c ∈ w, isBlank c = false) →
      (∀ c ∈ t.head?, isBlank c = true) → Runs t ws → Runs (w ++ t) (w :: ws)

namespace Text

/-- Words part at a blank. -/
theorem blankWords_append_cons {c : Char} (hc : isBlank c = true) (s t : Text) :
    blankWords (s ++ c :: t) = blankWords s ++ blankWords t := by
  rw [blankWords, List.splitOnP_append_cons s t hc, List.filter_append]
  rfl

@[simp] theorem blankWords_nil : blankWords [] = [] := by
  simp [blankWords, List.splitOnP_nil]

theorem blankWords_blank_cons {c : Char} (hc : isBlank c = true) (t : Text) :
    blankWords (c :: t) = blankWords t := by
  simpa using blankWords_append_cons hc [] t

/-- Characters that are not blank are one word. -/
theorem blankWords_of_forall_not_isBlank {w : Text} (hne : w ≠ [])
    (h : ∀ c ∈ w, isBlank c = false) : blankWords w = [w] := by
  rw [blankWords, List.splitOnP_eq_singleton h]
  simp [hne]

end Text

/-- No other words are runs. -/
theorem Runs.eq_blankWords {t : Text} {ws : List Text} (h : Runs t ws) :
    ws = Text.blankWords t := by
  induction h with
  | nil => exact Text.blankWords_nil.symm
  | blank hc _ ih => rw [Text.blankWords_blank_cons hc, ih]
  | @run w t ws hne hw ht _ ih =>
    have hword := Text.blankWords_of_forall_not_isBlank hne hw
    cases t with
    | nil => rw [List.append_nil, hword, ih, Text.blankWords_nil]
    | cons c t =>
      have hc := ht c rfl
      rw [Text.blankWords_append_cons hc, hword, ih, Text.blankWords_blank_cons hc]
      rfl

/-- Every text has runs. -/
theorem exists_runs (t : Text) : ∃ ws, Runs t ws := by
  -- on the length, since a run is taken whole
  induction hn : t.length using Nat.strongRecOn generalizing t with
  | ind n ih =>
    cases t with
    | nil => exact ⟨[], .nil⟩
    | cons c t =>
      by_cases hc : isBlank c = true
      · obtain ⟨ws, hws⟩ := ih t.length (hn ▸ Nat.lt_succ_self _) t rfl
        exact ⟨ws, .blank hc hws⟩
      · obtain ⟨w, rest, hsplit, hw, hrest⟩ : ∃ w rest, t = w ++ rest ∧
            (∀ d ∈ w, isBlank d = false) ∧ ∀ d ∈ rest.head?, isBlank d = true := by
          refine ⟨t.takeWhile (!isBlank ·), t.dropWhile (!isBlank ·),
            List.takeWhile_append_dropWhile.symm, fun d hd => ?_, fun d hd => ?_⟩
          · simpa using List.all_eq_true.mp List.all_takeWhile d hd
          · have hnot := List.head?_dropWhile_not (!isBlank ·) t
            rw [Option.mem_def.mp hd] at hnot
            simpa using hnot
        subst hsplit
        have hlt : rest.length < n := by
          rw [← hn, List.length_cons, List.length_append]
          omega
        obtain ⟨ws, hws⟩ := ih rest.length hlt rest rfl
        refine ⟨(c :: w) :: ws, .run (List.cons_ne_nil _ _) ?_ hrest hws⟩
        exact List.forall_mem_cons.mpr ⟨Bool.eq_false_iff.mpr hc, hw⟩

/-- The runs of a text are what its blanks cut it into. -/
theorem Text.runs_iff {t : Text} {ws : List Text} : Runs t ws ↔ ws = blankWords t := by
  refine ⟨Runs.eq_blankWords, ?_⟩
  rintro rfl
  obtain ⟨ws, hws⟩ := exists_runs t
  exact hws.eq_blankWords ▸ hws

/-! ## Plain values -/

/-- A character has no meaning of its own in a value, unless it begins a word.
Of the blanks, it is one that separates words. -/
structure PlainChar (c : Char) : Prop where
  /-- it is no single quote -/
  single : c ≠ '\''
  /-- it is no double quote -/
  double : c ≠ '"'
  /-- it is no backslash -/
  backslash : c ≠ '\\'
  /-- if it is blank, then a space, a tab or a newline -/
  separator : isBlank c = true → c = ' ' ∨ c = '\t' ∨ c = '\n'

/-- A value in which nothing has a meaning of its own. -/
structure PlainValue (value : Text) : Prop where
  /-- its characters have none -/
  plain : ∀ c ∈ value, PlainChar c
  /-- no word begins a comment -/
  comment : ∀ ws, Runs value ws → ∀ w ∈ ws, w.head? ≠ some '#'

theorem isBlank_of_isSeparator {c : Char} (h : isSeparator c = true) : isBlank c = true := by
  simp only [isSeparator, Bool.or_eq_true, decide_eq_true_eq] at h
  rcases h with (rfl | rfl) | rfl <;> decide

theorem PlainChar.isSeparator_eq {c : Char} (h : PlainChar c) : isSeparator c = isBlank c := by
  rw [Bool.eq_iff_iff]
  refine ⟨isBlank_of_isSeparator, fun hblank => ?_⟩
  rcases h.separator hblank with rfl | rfl | rfl <;> decide

namespace Text

/-- A word goes on with plain characters as they are. -/
theorem quotedWordsFrom_bare_append {w : Text} (hplain : ∀ c ∈ w, PlainChar c)
    (hw : ∀ c ∈ w, isBlank c = false) (word t : Text) :
    quotedWordsFrom .bare word (w ++ t) = quotedWordsFrom .bare (w.reverse ++ word) t := by
  induction w generalizing word with
  | nil => rfl
  | cons c w ih =>
    obtain ⟨hc, hplain⟩ := List.forall_mem_cons.mp hplain
    obtain ⟨hblank, hw⟩ := List.forall_mem_cons.mp hw
    rw [List.cons_append, quotedWordsFrom, hc.isSeparator_eq, hblank, if_neg Bool.false_ne_true,
      if_neg hc.single, if_neg hc.double, if_neg hc.backslash, ih hplain hw, List.reverse_cons,
      List.append_assoc]
    rfl

/-- A word of plain characters is begun as it is, unless it begins a comment. -/
theorem quotedWordsFrom_between_append {w : Text} (hne : w ≠ []) (hcomment : w.head? ≠ some '#')
    (hplain : ∀ c ∈ w, PlainChar c) (hw : ∀ c ∈ w, isBlank c = false) (t : Text) :
    quotedWordsFrom .between [] (w ++ t) = quotedWordsFrom .bare w.reverse t := by
  obtain ⟨c, w, rfl⟩ := List.exists_cons_of_ne_nil hne
  obtain ⟨hc, hplain⟩ := List.forall_mem_cons.mp hplain
  obtain ⟨hblank, hw⟩ := List.forall_mem_cons.mp hw
  have hhash : c ≠ '#' := fun h => hcomment (congrArg some h)
  rw [List.cons_append, quotedWordsFrom, hc.isSeparator_eq, hblank, if_neg Bool.false_ne_true,
    if_neg hc.single, if_neg hc.double, if_neg hc.backslash, if_neg hhash,
    quotedWordsFrom_bare_append hplain hw, List.reverse_cons]

/-- Of plain characters, the reader finds the runs. -/
theorem quotedWords?_of_runs {t : Text} {ws : List Text} (h : Runs t ws)
    (hplain : ∀ c ∈ t, PlainChar c) (hcomment : ∀ w ∈ ws, w.head? ≠ some '#') :
    quotedWords? t = some ws := by
  rw [quotedWords?]
  induction h with
  | nil => rfl
  | blank hc _ ih =>
    obtain ⟨hplainc, hplain⟩ := List.forall_mem_cons.mp hplain
    rw [quotedWordsFrom, hplainc.isSeparator_eq, if_pos hc, ih hplain hcomment]
  | @run w t ws hne hw ht _ ih =>
    obtain ⟨hplainw, hplain⟩ := List.forall_mem_append.mp hplain
    obtain ⟨hcommentw, hcomment⟩ := List.forall_mem_cons.mp hcomment
    have hrest := ih hplain hcomment
    rw [quotedWordsFrom_between_append hne hcommentw hplainw hw]
    cases t with
    | nil =>
      obtain rfl : [] = ws := Option.some.inj hrest
      rw [quotedWordsFrom, List.reverse_reverse]
    | cons c t =>
      -- the blank ends the word, and between words it would be passed over
      have hc := (hplain c (List.mem_cons_self ..)).isSeparator_eq.trans (ht c rfl)
      rw [quotedWordsFrom, if_pos hc] at hrest
      rw [quotedWordsFrom, if_pos hc, hrest, List.reverse_reverse]
      rfl

end Text

/-! ## Quotes that stay open -/

/-- A text that stands in double quotes without ending them: characters, and
pairs of a backslash and whatever it takes the meaning of. -/
inductive DoubleQuoted : Text → Prop where
  /-- nothing stands there -/
  | nil : DoubleQuoted []
  /-- a character by itself -/
  | char {c : Char} {t : Text} : c ≠ '"' → c ≠ '\\' → DoubleQuoted t → DoubleQuoted (c :: t)
  /-- a backslash with the character behind it -/
  | pair {c : Char} {t : Text} : DoubleQuoted t → DoubleQuoted ('\\' :: c :: t)

/-- A quote stays open in what follows. Whether a word is under way matters, as
only outside of words a comment begins. -/
inductive OpenQuote : Bool → Text → Prop where
  /-- nothing ends a single quote -/
  | single {inWord : Bool} {t : Text} : '\'' ∉ t → OpenQuote inWord ('\'' :: t)
  /-- nothing ends a double quote -/
  | double {inWord : Bool} {t : Text} : DoubleQuoted t → OpenQuote inWord ('"' :: t)
  /-- nothing ends a double quote, and a backslash is the last character -/
  | doubleBackslash {inWord : Bool} {t : Text} :
      DoubleQuoted t → OpenQuote inWord ('"' :: (t ++ ['\\']))
  /-- behind a character that separates words -/
  | separator {inWord : Bool} {c : Char} {t : Text} :
      isSeparator c = true → OpenQuote false t → OpenQuote inWord (c :: t)
  /-- behind a character of a word -/
  | character {inWord : Bool} {c : Char} {t : Text} : isSeparator c = false → c ≠ '\'' → c ≠ '"' →
      c ≠ '\\' → (inWord = false → c ≠ '#') → OpenQuote true t → OpenQuote inWord (c :: t)
  /-- behind a character that a backslash takes the meaning of -/
  | escaped {inWord : Bool} {c : Char} {t : Text} :
      c ≠ '\n' → OpenQuote true t → OpenQuote inWord ('\\' :: c :: t)
  /-- behind a newline that a backslash takes out -/
  | joined {inWord : Bool} {t : Text} : OpenQuote inWord t → OpenQuote inWord ('\\' :: '\n' :: t)
  /-- behind a comment, which goes on to the end of the line -/
  | comment {remark t : Text} :
      '\n' ∉ remark → OpenQuote false t → OpenQuote false ('#' :: (remark ++ '\n' :: t))
  /-- behind a part in single quotes -/
  | singleQuoted {inWord : Bool} {quoted t : Text} :
      '\'' ∉ quoted → OpenQuote true t → OpenQuote inWord ('\'' :: (quoted ++ '\'' :: t))
  /-- behind a part in double quotes -/
  | doubleQuoted {inWord : Bool} {quoted t : Text} :
      DoubleQuoted quoted → OpenQuote true t → OpenQuote inWord ('"' :: (quoted ++ '"' :: t))

namespace Text

/-! ### An open quote is noticed -/

theorem quotedWordsFrom_single_append {quoted : Text} (h : '\'' ∉ quoted) (word t : Text) :
    quotedWordsFrom .single word (quoted ++ t) =
      quotedWordsFrom .single (quoted.reverse ++ word) t := by
  induction quoted generalizing word with
  | nil => rfl
  | cons c quoted ih =>
    rw [List.mem_cons, not_or] at h
    obtain ⟨hc, hquoted⟩ := h
    rw [List.cons_append, quotedWordsFrom, if_neg (Ne.symm hc), ih hquoted, List.reverse_cons,
      List.append_assoc]
    rfl

theorem exists_quotedWordsFrom_double_append {quoted : Text} (h : DoubleQuoted quoted)
    (word : Text) : ∃ word', ∀ t,
      quotedWordsFrom .double word (quoted ++ t) = quotedWordsFrom .double word' t := by
  induction h generalizing word with
  | nil => exact ⟨word, fun _ => rfl⟩
  | @char c _ hquote hbackslash _ ih =>
    obtain ⟨word', hword'⟩ := ih (c :: word)
    refine ⟨word', fun t => ?_⟩
    rw [List.cons_append, quotedWordsFrom, if_neg hquote, if_neg hbackslash, hword']
  | @pair c quoted _ ih =>
    -- the pair adds no character, one or two
    obtain ⟨word₁, hword₁⟩ : ∃ word₁, ∀ t, quotedWordsFrom .doubleEscape word (c :: t) =
        quotedWordsFrom .double word₁ t := by
      simp only [quotedWordsFrom]
      split_ifs
      · exact ⟨_, fun _ => rfl⟩
      · exact ⟨_, fun _ => rfl⟩
      · exact ⟨_, fun _ => rfl⟩
    obtain ⟨word', hword'⟩ := ih word₁
    refine ⟨word', fun t => ?_⟩
    exact (hword₁ (quoted ++ t)).trans (hword' t)

theorem quotedWordsFrom_comment_append {remark : Text} (h : '\n' ∉ remark) (t : Text) :
    quotedWordsFrom .comment [] (remark ++ '\n' :: t) = quotedWordsFrom .between [] t := by
  induction remark with
  | nil => rfl
  | cons c remark ih =>
    rw [List.mem_cons, not_or] at h
    obtain ⟨hc, hremark⟩ := h
    rw [List.cons_append, quotedWordsFrom, if_neg (Ne.symm hc), ih hremark]

/-- Where the reader stands outside quotes. -/
def outsideMode (inWord : Bool) : WordMode := if inWord then .bare else .between

theorem quotedWordsFrom_of_openQuote {inWord : Bool} {t : Text} (h : OpenQuote inWord t)
    (word : Text) : quotedWordsFrom (outsideMode inWord) word t = none := by
  -- a quote leads into quotes, whether a word is under way or not
  have hsingle : ∀ (inWord : Bool) (word : Text), ∃ word', ∀ t,
      quotedWordsFrom (outsideMode inWord) word ('\'' :: t) = quotedWordsFrom .single word' t := by
    rintro (_ | _) word
    · exact ⟨[], fun _ => rfl⟩
    · exact ⟨word, fun _ => rfl⟩
  have hdouble : ∀ (inWord : Bool) (word : Text), ∃ word', ∀ t,
      quotedWordsFrom (outsideMode inWord) word ('"' :: t) = quotedWordsFrom .double word' t := by
    rintro (_ | _) word
    · exact ⟨[], fun _ => rfl⟩
    · exact ⟨word, fun _ => rfl⟩
  induction h generalizing word with
  | @single inWord t ht =>
    obtain ⟨word', hword'⟩ := hsingle inWord word
    have hread := quotedWordsFrom_single_append ht word' []
    rw [List.append_nil] at hread
    rw [hword', hread, quotedWordsFrom]
  | @double inWord t ht =>
    obtain ⟨word', hword'⟩ := hdouble inWord word
    obtain ⟨word'', hread⟩ := exists_quotedWordsFrom_double_append ht word'
    have hend := hread []
    rw [List.append_nil] at hend
    rw [hword', hend, quotedWordsFrom]
  | @doubleBackslash inWord t ht =>
    obtain ⟨word', hword'⟩ := hdouble inWord word
    obtain ⟨word'', hread⟩ := exists_quotedWordsFrom_double_append ht word'
    rw [hword', hread]
    rfl
  | @separator inWord c t hc _ ih =>
    have hrest := ih []
    cases inWord with
    | false => exact (if_pos hc).trans hrest
    | true =>
      refine (if_pos hc).trans ?_
      rw [Option.map_eq_none_iff]
      exact hrest
  | @character inWord c t hc hsingle hdouble hbackslash hhash _ ih =>
    cases inWord with
    | false =>
      rw [outsideMode, if_neg Bool.false_ne_true, quotedWordsFrom, hc, if_neg Bool.false_ne_true,
        if_neg hsingle, if_neg hdouble, if_neg hbackslash, if_neg (hhash rfl)]
      exact ih [c]
    | true =>
      rw [outsideMode, if_pos rfl, quotedWordsFrom, hc, if_neg Bool.false_ne_true,
        if_neg hsingle, if_neg hdouble, if_neg hbackslash]
      exact ih (c :: word)
  | @escaped inWord c t hc _ ih =>
    cases inWord with
    | false => exact (if_neg hc).trans (ih [c])
    | true => exact (if_neg hc).trans (ih (c :: word))
  | @joined inWord t _ ih =>
    cases inWord with
    | false => exact ih []
    | true => exact ih word
  | @comment remark t hremark _ ih =>
    exact (quotedWordsFrom_comment_append hremark t).trans (ih [])
  | @singleQuoted inWord quoted t hquoted _ ih =>
    obtain ⟨word', hword'⟩ := hsingle inWord word
    rw [hword', quotedWordsFrom_single_append hquoted]
    exact ih _
  | @doubleQuoted inWord quoted t hquoted _ ih =>
    obtain ⟨word', hword'⟩ := hdouble inWord word
    obtain ⟨word'', hread⟩ := exists_quotedWordsFrom_double_append hquoted word'
    rw [hword', hread]
    exact ih _

/-! ### Nothing else stops the reader -/

/-- Inside single quotes: they stay open, or another quote does behind them. -/
def OpensSingle (t : Text) : Prop :=
  '\'' ∉ t ∨ ∃ quoted rest, t = quoted ++ '\'' :: rest ∧ '\'' ∉ quoted ∧ OpenQuote true rest

/-- Inside double quotes: they stay open, or another quote does behind them. -/
def OpensDouble (t : Text) : Prop :=
  DoubleQuoted t ∨ (∃ quoted, t = quoted ++ ['\\'] ∧ DoubleQuoted quoted) ∨
    ∃ quoted rest, t = quoted ++ '"' :: rest ∧ DoubleQuoted quoted ∧ OpenQuote true rest

theorem OpensSingle.openQuote {t : Text} (h : OpensSingle t) (inWord : Bool) :
    OpenQuote inWord ('\'' :: t) := by
  obtain ht | ⟨quoted, rest, rfl, hquoted, hrest⟩ := h
  · exact .single ht
  · exact .singleQuoted hquoted hrest

theorem OpensSingle.cons {t : Text} (h : OpensSingle t) {c : Char} (hc : c ≠ '\'') :
    OpensSingle (c :: t) := by
  obtain ht | ⟨quoted, rest, rfl, hquoted, hrest⟩ := h
  · left
    simp [ht, hc.symm]
  · right
    refine ⟨c :: quoted, rest, rfl, ?_, hrest⟩
    simp [hquoted, hc.symm]

theorem OpensDouble.openQuote {t : Text} (h : OpensDouble t) (inWord : Bool) :
    OpenQuote inWord ('"' :: t) := by
  obtain ht | ⟨quoted, rfl, hquoted⟩ | ⟨quoted, rest, rfl, hquoted, hrest⟩ := h
  · exact .double ht
  · exact .doubleBackslash hquoted
  · exact .doubleQuoted hquoted hrest

theorem OpensDouble.append {t : Text} (h : OpensDouble t) (front : Text)
    (hfront : ∀ {quoted : Text}, DoubleQuoted quoted → DoubleQuoted (front ++ quoted)) :
    OpensDouble (front ++ t) := by
  obtain ht | ⟨quoted, rfl, hquoted⟩ | ⟨quoted, rest, rfl, hquoted, hrest⟩ := h
  · exact .inl (hfront ht)
  · exact .inr (.inl ⟨front ++ quoted, (List.append_assoc ..).symm, hfront hquoted⟩)
  · exact .inr (.inr ⟨front ++ quoted, rest, (List.append_assoc ..).symm, hfront hquoted, hrest⟩)

/-- A quote stays open from where the reader stands. -/
def OpensFrom : WordMode → Text → Prop
  | .between, t => OpenQuote false t
  | .betweenEscape, t => OpenQuote false ('\\' :: t)
  | .bare, t => OpenQuote true t
  | .bareEscape, t => OpenQuote true ('\\' :: t)
  | .single, t => OpensSingle t
  | .double, t => OpensDouble t
  | .doubleEscape, t => OpensDouble ('\\' :: t)
  | .comment, t => ∃ remark rest, t = remark ++ '\n' :: rest ∧ '\n' ∉ remark ∧ OpenQuote false rest

theorem opensFrom_of_quotedWordsFrom {mode : WordMode} {word t : Text}
    (h : quotedWordsFrom mode word t = none) : OpensFrom mode t := by
  induction t generalizing mode word with
  | nil =>
    -- the end of the text is refused inside quotes alone
    cases mode with
    | between | betweenEscape | bare | bareEscape | comment => cases h
    | single => exact .inl List.not_mem_nil
    | double => exact .inl .nil
    | doubleEscape => exact .inr (.inl ⟨[], rfl, .nil⟩)
  | cons c t ih =>
    cases mode with
    | between =>
      rw [quotedWordsFrom] at h
      split_ifs at h with hseparator hsingle hdouble hbackslash hhash
      · exact .separator hseparator (ih h)
      · subst hsingle
        exact (ih h).openQuote false
      · subst hdouble
        exact (ih h).openQuote false
      · subst hbackslash
        exact ih h
      · subst hhash
        obtain ⟨remark, rest, rfl, hremark, hrest⟩ := ih h
        exact .comment hremark hrest
      · exact .character (Bool.eq_false_iff.mpr hseparator) hsingle hdouble hbackslash
          (fun _ => hhash) (ih h)
    | bare =>
      rw [quotedWordsFrom] at h
      split_ifs at h with hseparator hsingle hdouble hbackslash
      · exact .separator hseparator (ih (Option.map_eq_none_iff.mp h))
      · subst hsingle
        exact (ih h).openQuote true
      · subst hdouble
        exact (ih h).openQuote true
      · subst hbackslash
        exact ih h
      · exact .character (Bool.eq_false_iff.mpr hseparator) hsingle hdouble hbackslash
          (fun hword => absurd hword (by decide)) (ih h)
    | betweenEscape =>
      rw [quotedWordsFrom] at h
      split_ifs at h with hnewline
      · subst hnewline
        exact .joined (ih h)
      · exact .escaped hnewline (ih h)
    | bareEscape =>
      rw [quotedWordsFrom] at h
      split_ifs at h with hnewline
      · subst hnewline
        exact .joined (ih h)
      · exact .escaped hnewline (ih h)
    | single =>
      rw [quotedWordsFrom] at h
      split_ifs at h with hquote
      · subst hquote
        exact .inr ⟨[], t, rfl, List.not_mem_nil, ih h⟩
      · exact OpensSingle.cons (ih h) hquote
    | double =>
      rw [quotedWordsFrom] at h
      split_ifs at h with hquote hbackslash
      · subst hquote
        exact .inr (.inr ⟨[], t, rfl, .nil, ih h⟩)
      · subst hbackslash
        exact ih h
      · exact OpensDouble.append (ih h) [c] (.char hquote hbackslash)
    | doubleEscape =>
      have hrest : OpensDouble t := by
        rw [quotedWordsFrom] at h
        split_ifs at h
        · exact ih h
        · exact ih h
        · exact ih h
      exact hrest.append ['\\', c] .pair
    | comment =>
      rw [quotedWordsFrom] at h
      split_ifs at h with hnewline
      · subst hnewline
        exact ⟨[], t, rfl, List.not_mem_nil, ih h⟩
      · obtain ⟨remark, rest, rfl, hremark, hrest⟩ := ih h
        refine ⟨c :: remark, rest, rfl, ?_, hrest⟩
        simp [hremark, Ne.symm hnewline]

/-- A value has no words of its own exactly if one of its quotes stays open. -/
theorem quotedWords?_eq_none_iff {value : Text} :
    quotedWords? value = none ↔ OpenQuote false value :=
  ⟨opensFrom_of_quotedWordsFrom, fun h => quotedWordsFrom_of_openQuote h []⟩

/-- **Plain values and broken ones are cut into their runs.** A plain value is
read without trouble, and its words are its runs. If a quote stays open, the words
are the runs of the whole value as well, whatever words stand before the quote.
Every other value is read without trouble. So there are words for every value; and
the runs of a value are what its blanks cut it into. -/
theorem words_are_runs (value : Text) :
    (PlainValue value → quotedWords? value = some (words value) ∧ Runs value (words value)) ∧
      (OpenQuote false value → quotedWords? value = none ∧ Runs value (words value)) ∧
      (¬ OpenQuote false value → quotedWords? value = some (words value)) ∧
      ∀ ws, Runs value ws ↔ ws = blankWords value := by
  refine ⟨fun hplain => ?_, fun hopen => ?_, fun hclosed => ?_, fun ws => runs_iff⟩
  · obtain ⟨ws, hws⟩ := exists_runs value
    have hread := quotedWords?_of_runs hws hplain.plain (hplain.comment ws hws)
    rw [words_eq_of_quotedWords? hread]
    exact ⟨hread, hws⟩
  · have hread := quotedWords?_eq_none_iff.mpr hopen
    rw [words_eq_blankWords hread]
    exact ⟨hread, runs_iff.mpr rfl⟩
  · rw [← quotedWords?_eq_none_iff, ← ne_eq, Option.ne_none_iff_exists'] at hclosed
    obtain ⟨ws, hread⟩ := hclosed
    rw [words_eq_of_quotedWords? hread]
    exact hread

/-- A plain value with a number sign inside a word; and a value with a quoted part,
a quote that is none and a comment before the quote that stays open. -/
theorem words_are_runs_openQuote :
    PlainValue "a#b \t c\n".toList ∧ words "a#b \t c\n".toList = ["a#b".toList, ['c']] ∧
      OpenQuote false "'a b' c\\' #\"\n\"d e".toList ∧
      words "'a b' c\\' #\"\n\"d e".toList =
        ["'a".toList, "b'".toList, "c\\'".toList, "#\"".toList, "\"d".toList, ['e']] := by
  have hplain : PlainValue "a#b \t c\n".toList := by
    constructor
    · have hchars : ("a#b \t c\n".toList.all fun c => c ≠ '\'' ∧ c ≠ '"' ∧ c ≠ '\\' ∧
          (isBlank c = true → c = ' ' ∨ c = '\t' ∨ c = '\n')) = true := by decide
      intro c hc
      obtain ⟨hsingle, hdouble, hbackslash, hseparator⟩ :=
        of_decide_eq_true (List.all_eq_true.mp hchars c hc)
      exact ⟨hsingle, hdouble, hbackslash, hseparator⟩
    · intro ws hws
      rw [hws.eq_blankWords]
      decide
  have hopen : OpenQuote false "'a b' c\\' #\"\n\"d e".toList := by
    have hquoted : '\'' ∉ "a b".toList := by decide
    have hremark : '\n' ∉ ['"'] := by decide
    refine .singleQuoted hquoted (.separator (by decide) ?_)
    refine .character (by decide) (by decide) (by decide) (by decide) (by decide) ?_
    refine .escaped (by decide) (.separator (by decide) ?_)
    refine .comment hremark (.double ?_)
    exact .char (by decide) (by decide) (.char (by decide) (by decide)
      (.char (by decide) (by decide) .nil))
  obtain ⟨-, hplainRuns⟩ := (words_are_runs "a#b \t c\n".toList).1 hplain
  obtain ⟨-, hopenRuns⟩ := (words_are_runs "'a b' c\\' #\"\n\"d e".toList).2.1 hopen
  refine ⟨hplain, ?_, hopen, ?_⟩
  · rw [hplainRuns.eq_blankWords]
    decide
  · rw [hopenRuns.eq_blankWords]
    decide

end Text

end TargetHelp
