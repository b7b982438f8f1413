import TargetHelp.Proofs.DatabaseGrammar
import TargetHelp.Proofs.WrittenLines

/-!
# A database, printed and read back

A database can be printed line by line (`Printed`): the definition of a variable
with its words in single quotes, a target with whatever stands behind its colon.
Reading what was printed gives the database back (`read_printed_database`): the
words of every variable as they were defined last, and the targets.

Single quotes keep everything as it is, except the quote itself, which has to
stand between two quoted parts (`singleQuotedChar`). So a word may hold any characters
but a newline, and be empty (`quotedWords?_quotedValue`). A line loses nothing
but a carriage return at its end, and only a target's line can end in one.
-/

namespace TargetHelp

/-! ## Words in single quotes -/

/-- A character of a quoted word. A quote ends the quoted part, is written
behind a backslash, and another quoted part begins. -/
def singleQuotedChar (c : Char) : Text := if c = '\'' then ['\'', '\\', '\'', '\''] else [c]

/-- A word in single quotes. -/
def quotedWord (w : Text) : Text := '\'' :: (w.flatMap singleQuotedChar ++ ['\''])

/-- The value of a variable that has these words, a space between each two. -/
def quotedValue (ws : List Text) : Text := [' '].intercalate (ws.map quotedWord)

theorem quotedValue_singleton (w : Text) : quotedValue [w] = quotedWord w :=
  List.intercalate_singleton

theorem quotedValue_cons_cons (w w' : Text) (ws : List Text) :
    quotedValue (w :: w' :: ws) = quotedWord w ++ ' ' :: quotedValue (w' :: ws) := by
  rw [quotedValue, List.map_cons, List.map_cons, List.intercalate_cons_cons, List.append_assoc]
  rfl

namespace Text

/-- Inside the quotes a word is read as it is, up to the quote that ends it. -/
theorem quotedWordsFrom_single (w word rest : Text) :
    quotedWordsFrom .single word (w.flatMap singleQuotedChar ++ '\'' :: rest) =
      quotedWordsFrom .bare (w.reverse ++ word) rest := by
  induction w generalizing word with
  | nil => rfl
  | cons c w ih =>
    rw [List.flatMap_cons, List.append_assoc, List.reverse_cons, List.append_assoc]
    by_cases hc : c = '\''
    · -- out of the quotes, over the backslash, and into the quotes again
      subst hc
      exact ih ('\'' :: word)
    · have hchar : singleQuotedChar c = [c] := if_neg hc
      rw [hchar, List.singleton_append, quotedWordsFrom, if_neg hc]
      exact ih (c :: word)

theorem quotedWordsFrom_quotedWord (w rest : Text) :
    quotedWordsFrom .between [] (quotedWord w ++ rest) = quotedWordsFrom .bare w.reverse rest := by
  have hsingle := quotedWordsFrom_single w [] rest
  rw [List.append_nil] at hsingle
  rw [quotedWord, List.cons_append, List.append_assoc, ← hsingle]
  rfl

/-- The words of a value are read back. -/
theorem quotedWords?_quotedValue (ws : List Text) : quotedWords? (quotedValue ws) = some ws := by
  rw [quotedWords?]
  induction ws with
  | nil => rfl
  | cons w ws ih =>
    cases ws with
    | nil =>
      rw [quotedValue_singleton, ← List.append_nil (quotedWord w), quotedWordsFrom_quotedWord,
        quotedWordsFrom, List.reverse_reverse]
    | cons w' ws =>
      rw [quotedValue_cons_cons, quotedWordsFrom_quotedWord, quotedWordsFrom, if_pos (by decide),
        ih, List.reverse_reverse]
      rfl

end Text

/-- A value is empty or begins and ends with a quote. -/
theorem exists_quotedValue_eq (w : Text) (ws : List Text) :
    ∃ inner, quotedValue (w :: ws) = '\'' :: (inner ++ ['\'']) := by
  induction ws generalizing w with
  | nil => exact ⟨_, quotedValue_singleton w⟩
  | cons w' ws ih =>
    obtain ⟨inner, h⟩ := ih w'
    refine ⟨w.flatMap singleQuotedChar ++ '\'' :: ' ' :: '\'' :: inner, ?_⟩
    rw [quotedValue_cons_cons, h, quotedWord]
    simp

theorem trimStart_space_quotedValue (ws : List Text) :
    Text.trimStart (' ' :: quotedValue ws) = quotedValue ws := by
  rw [Text.trimStart, List.dropWhile_cons_of_pos (by decide)]
  cases ws with
  | nil => rfl
  | cons w ws =>
    obtain ⟨inner, h⟩ := exists_quotedValue_eq w ws
    rw [h, List.dropWhile_cons_of_neg (by decide)]

/-- Quoting brings no newline in. -/
theorem newline_not_mem_quotedValue {ws : List Text} (h : ∀ w ∈ ws, '\n' ∉ w) :
    '\n' ∉ quotedValue ws := by
  have hword : ∀ w : Text, '\n' ∉ w → '\n' ∉ quotedWord w := by
    intro w hw
    have hchar : ∀ c, '\n' ∈ singleQuotedChar c → '\n' = c := by
      intro c hc
      unfold singleQuotedChar at hc
      split at hc
      · simp at hc
      · exact List.mem_singleton.mp hc
    simp only [quotedWord, List.mem_cons, List.mem_append, List.mem_flatMap, List.not_mem_nil,
      or_false, not_or]
    refine ⟨by decide, ?_, by decide⟩
    rintro ⟨c, hc, hmem⟩
    exact hw (hchar c hmem ▸ hc)
  induction ws with
  | nil => exact List.not_mem_nil
  | cons w ws ih =>
    have hw := hword w (h w (List.mem_cons_self ..))
    have ih := ih fun w' hw' => h w' (List.mem_cons_of_mem _ hw')
    cases ws with
    | nil => rwa [quotedValue_singleton]
    | cons w' ws =>
      rw [quotedValue_cons_cons, List.mem_append, List.mem_cons]
      rintro (hmem | hmem | hmem)
      · exact hw hmem
      · exact absurd hmem (by decide)
      · exact ih hmem

/-! ## Lines of a printed database -/

/-- The definition of a variable, as it is to be printed. -/
structure PrintedDefinition where
  /-- the name of the variable -/
  name : Text
  /-- its words -/
  words : List Text
  /-- the variable has a name -/
  name_ne_nil : name ≠ [] := by decide
  /-- nothing in the name would end it -/
  name_chars : ∀ c ∈ name, isBlank c = false ∧ c ≠ ':' ∧ c ≠ '#' ∧ c ≠ '=' := by simp; decide
  /-- the words are parts of one line -/
  words_newline : ∀ w ∈ words, '\n' ∉ w := by decide

/-- The definition of a target, as it is to be printed. -/
structure PrintedTarget where
  /-- the name of the target -/
  name : Text
  /-- what stands behind the colon and a space, if anything does -/
  behind : Option Text
  /-- the target has a name -/
  name_ne_nil : name ≠ [] := by decide
  /-- nothing in the name would end it -/
  name_chars : ∀ c ∈ name, isBlank c = false ∧ c ≠ ':' := by simp; decide
  /-- the name is not one of the build tool's own -/
  name_dot : name.head? ≠ some '.' := by decide
  /-- what stands behind is part of the line -/
  behind_newline : ∀ t ∈ behind, '\n' ∉ t := by simp

/-- What is printed on one line. -/
inductive Printed where
  /-- the definition of a variable -/
  | definition (d : PrintedDefinition)
  /-- the definition of a target -/
  | target (t : PrintedTarget)

namespace Printed

/-- The line that is printed. -/
def line : Printed → Text
  | .definition d => d.name ++ ' ' :: ':' :: '=' :: ' ' :: quotedValue d.words
  | .target t =>
    match t.behind with
    | none => t.name ++ [':']
    | some text => t.name ++ ':' :: ' ' :: text

/-- What the line is to add to a database. -/
def addition : Printed → Addition
  | .definition d => ⟨some (d.name, d.words), none⟩
  | .target t => ⟨none, some t.name⟩

end Printed

/-! ## However they are read -/

/-- The line of a variable adds that variable. -/
theorem PrintedDefinition.ofLine_eq (d : PrintedDefinition) {read : Text}
    (hread : ReadAs (Printed.definition d).line read) :
    Addition.ofLine read = (Printed.definition d).addition := by
  have hlast : (Printed.definition d).line.getLast? ≠ some '\r' := by
    rw [Printed.line]
    cases d.words with
    | nil => simp [quotedValue]
    | cons w ws =>
      obtain ⟨inner, h⟩ := exists_quotedValue_eq w ws
      have hquote : d.name ++ ' ' :: ':' :: '=' :: ' ' :: quotedValue (w :: ws) =
          d.name ++ ' ' :: ':' :: '=' :: ' ' :: '\'' :: inner ++ ['\''] := by simp [h]
      rw [hquote, List.getLast?_concat]
      decide
  have hspace : ∀ c ∈ [' '], isBlank c = true := by
    rw [List.forall_mem_singleton]
    decide
  have hline : DefinesVariable (Printed.definition d).line d.name (' ' :: quotedValue d.words) :=
    ⟨d.name_ne_nil, d.name_chars, [' '], hspace, by simp [Printed.line]⟩
  rw [hread.eq hlast]
  ext1
  · refine Addition.definition_ofLine.mpr ⟨_, hline, ?_⟩
    rw [trimStart_space_quotedValue,
      Text.words_eq_of_quotedWords? (Text.quotedWords?_quotedValue _)]
  · rw [Addition.ofLine, Printed.addition, Option.eq_none_iff_forall_ne_some]
    intro name h
    -- the space in front of the sign keeps the line from defining a target
    obtain ⟨-, hsign, -⟩ := hline.definesTarget_iff.mp (targetName?_eq_some_iff.mp h)
    rw [Printed.line, List.prefix_append_right_inj] at hsign
    exact absurd hsign (by simp)

/-- A name, a colon and something that does not make a sign of it add the
target and nothing else. -/
theorem PrintedTarget.ofLine_append_colon (t : PrintedTarget) {behind : Text}
    (h : behind.head? ≠ some '=') :
    Addition.ofLine (t.name ++ ':' :: behind) = ⟨none, some t.name⟩ := by
  have htarget : DefinesTarget (t.name ++ ':' :: behind) t.name :=
    ⟨t.name_ne_nil, t.name_chars, t.name_dot, behind, rfl⟩
  ext1
  · rw [Option.eq_none_iff_forall_ne_some]
    intro d hd
    obtain ⟨rest, hline, -⟩ := Addition.definition_ofLine.mp hd
    obtain ⟨hname, hsign, -⟩ := hline.definesTarget_iff.mp htarget
    rw [← hname, List.prefix_append_right_inj] at hsign
    obtain ⟨back, hback⟩ := hsign
    obtain rfl := (List.cons.inj hback).2
    exact h rfl
  · exact targetName?_eq_some_iff.mpr htarget

/-- The line of a target adds that target. -/
theorem PrintedTarget.ofLine_eq (t : PrintedTarget) {read : Text}
    (hread : ReadAs (Printed.target t).line read) :
    Addition.ofLine read = (Printed.target t).addition := by
  rw [Printed.line] at hread
  cases hbehind : t.behind with
  | none =>
    simp only [hbehind] at hread
    rw [hread.eq (by simp)]
    exact t.ofLine_append_colon (by simp)
  | some text =>
    -- whatever is lost of the text, the space in front of it is not
    simp only [hbehind] at hread
    rw [List.append_cons] at hread
    obtain ⟨back, rfl⟩ := hread.of_append_cons (by decide)
    rw [← List.append_cons]
    exact t.ofLine_append_colon (by simp)

namespace Printed

theorem ofLine_eq (p : Printed) {read : Text} (hread : ReadAs p.line read) :
    Addition.ofLine read = p.addition := by
  cases p with
  | definition d => exact d.ofLine_eq hread
  | target t => exact t.ofLine_eq hread

theorem newline_not_mem_line (p : Printed) : '\n' ∉ p.line := by
  cases p with
  | definition d =>
    have hname : '\n' ∉ d.name := fun h => absurd (d.name_chars _ h).1 (by decide)
    simpa [line, hname] using newline_not_mem_quotedValue d.words_newline
  | target t =>
    have hname : '\n' ∉ t.name := fun h => absurd (t.name_chars _ h).1 (by decide)
    rw [line]
    cases hbehind : t.behind with
    | none => simp [hname]
    | some text => simpa [hname] using t.behind_newline text hbehind

/-- However the lines of a printed database end, what is read of them are their
additions. -/
theorem map_ofLine_of_written {printed : List Printed} {t : Text}
    (h : Written (printed.map line) t) :
    (Stream.ofBytes (Utf8.encode t)).lines.map Addition.ofLine = printed.map addition := by
  refine map_eq_of_readAs ?_ (lines_of_written h ?_)
  · rw [List.forall₂_map_left_iff, List.forall₂_map_right_iff, List.forall₂_same]
    exact fun p _ _ hread => p.ofLine_eq hread
  · intro l hl
    obtain ⟨p, -, rfl⟩ := List.mem_map.mp hl
    exact p.newline_not_mem_line

/-- A printed line is the definition of a variable of this name. -/
def Defines (name : Text) (p : Printed) : Prop := ∃ d, p = .definition d ∧ d.name = name

theorem exists_addition_eq_iff {p : Printed} {name : Text} :
    (∃ ws, p.addition.definition = some (name, ws)) ↔ p.Defines name := by
  cases p with
  | definition d => simp [addition, Defines]
  | target t => simp [addition, Defines]

end Printed

/-- **A printed database is read back.** However the lines of a database are
printed and ended, reading them yields, for every variable, the words of its
last definition, and exactly the targets that were printed. -/
theorem read_printed_database (what : Text) {printed : List Printed} {t : Text}
    (h : Written (printed.map Printed.line) t) :
    ∃ db, Database.read what (.ofBytes (Utf8.encode t)) = .ok db ∧
      (∀ name ws, db.vars.get? name = some ws ↔
        ∃ d, IsLastWith (Printed.Defines name) printed (.definition d) ∧ d.words = ws) ∧
      ∀ name, db.targets.contains name = true ↔ ∃ t, .target t ∈ printed ∧ t.name = name := by
  have hdb : Database.ofLines (Stream.ofBytes (Utf8.encode t)).lines =
      Database.ofAdditions (printed.map Printed.addition) := by
    rw [Database.ofLines_eq, Printed.map_ofLine_of_written h]
  refine ⟨_, rfl, fun name ws => ?_, fun name => ?_⟩
  · rw [hdb, Database.get?_ofAdditions]
    simp only [isLastWith_map, Printed.exists_addition_eq_iff]
    refine ⟨?_, ?_⟩
    · rintro ⟨_, ⟨p, rfl, hlast⟩, ha⟩
      obtain ⟨d, rfl, -⟩ := hlast.1
      exact ⟨d, hlast, (Prod.mk.inj (Option.some.inj ha)).2⟩
    · rintro ⟨d, hlast, rfl⟩
      obtain ⟨_, ⟨⟩, rfl⟩ := hlast.1
      exact ⟨_, ⟨.definition d, rfl, hlast⟩, rfl⟩
  · rw [hdb, Database.contains_ofAdditions]
    refine ⟨?_, ?_⟩
    · rintro ⟨a, ha, htarget⟩
      obtain ⟨p, hp, rfl⟩ := List.mem_map.mp ha
      cases p with
      | definition d => cases htarget
      | target t => exact ⟨t, hp, Option.some.inj htarget⟩
    · rintro ⟨t, ht, rfl⟩
      exact ⟨_, List.mem_map_of_mem ht, rfl⟩

/-- A variable that is defined twice, the second time with an empty word and one
that holds a quote, a comment sign, a backslash and a carriage return, and a
target whose line looks like a definition further on. -/
theorem read_printed_database_redefined :
    ∃ db, Database.read [] (.ofBytes (Utf8.encode
        "A := 'x'\r\nA := '' 'it'\\''s #\\\r'\r\nb: A := c\n".toList)) = .ok db ∧
      db.vars.get? ['A'] = some [[], "it's #\\\r".toList] ∧
      db.targets.contains ['b'] = true ∧ db.targets.contains ['A'] = false := by
  have h := @read_printed_database []
    [.definition { name := ['A'], words := [['x']] },
     .definition { name := ['A'], words := [[], "it's #\\\r".toList] },
     .target { name := ['b'], behind := some "A := c".toList, behind_newline := by simp }]
    "A := 'x'\r\nA := '' 'it'\\''s #\\\r'\r\nb: A := c\n".toList
    (.cons _ .returnNewline <| .cons _ .returnNewline <| .cons _ .newline .nil)
  obtain ⟨db, hread, hvars, htargets⟩ := h
  refine ⟨db, hread, (hvars _ _).mpr ⟨_, ⟨⟨_, rfl, rfl⟩, [_], [_], rfl, ?_⟩, rfl⟩,
    (htargets _).mpr ⟨_, .tail _ (.tail _ (.head _)), rfl⟩, ?_⟩
  · rintro _ hp ⟨d, rfl, -⟩
    simp at hp
  · rw [← Bool.not_eq_true, htargets]
    rintro ⟨t, ht, hname⟩
    simp only [List.mem_cons, Printed.target.injEq, reduceCtorEq, List.not_mem_nil, or_false,
      false_or] at ht
    rw [ht] at hname
    exact absurd hname (by decide)

end TargetHelp
