import TargetHelp.Database
import TargetHelp.Proofs.LastWith
import TargetHelp.Proofs.References

/-!
# The grammar of a printed database

Two forms of lines mean something in what the build tool prints. One defines a
variable (`DefinesVariable`): a name, blanks, `:=`, and a value. The other
defines a target (`DefinesTarget`): a name and a colon. Which lines have these
forms is said here without a reader. The readers of the program find exactly
them (`Definition.read?_eq_some_iff`, `targetName?_eq_some_iff`).

A line matters only through what it adds to the database (`Addition`), so a
database is known from the additions in order: the last definition of a variable
counts, and every target does (`get?_ofAdditions`, `contains_ofAdditions`). With
the grammar this says what is read from any bytes at all (`read_eq_grammar`).
-/

namespace TargetHelp

/-! ## The two forms of lines -/

/-- A line that defines a variable of this name, and what stands behind the
sign. -/
structure DefinesVariable (line name rest : Text) : Prop where
  /-- the name is not empty -/
  name_ne_nil : name ≠ []
  /-- the name holds none of the characters that would end it -/
  name_chars : ∀ c ∈ name, isBlank c = false ∧ c ≠ ':' ∧ c ≠ '#' ∧ c ≠ '='
  /-- the name stands at the start, and only blanks between it and the sign -/
  line_eq : ∃ blanks, (∀ c ∈ blanks, isBlank c = true) ∧ line = name ++ blanks ++ ':' :: '=' :: rest

/-- A line that defines a target of this name. -/
structure DefinesTarget (line name : Text) : Prop where
  /-- the name is not empty -/
  name_ne_nil : name ≠ []
  /-- the name holds none of the characters that would end it -/
  name_chars : ∀ c ∈ name, isBlank c = false ∧ c ≠ ':'
  /-- the name is not one of the build tool's own -/
  name_dot : name.head? ≠ some '.'
  /-- the name stands at the start, with a colon behind it -/
  line_eq : ∃ rest, line = name ++ ':' :: rest

/-! ## They are what is read -/

theorem isNameBreak_eq_false_iff {c : Char} :
    isNameBreak c = false ↔ isBlank c = false ∧ c ≠ ':' ∧ c ≠ '#' ∧ c ≠ '=' := by
  simp only [isNameBreak, Bool.or_eq_false_iff, decide_eq_false_iff_not, and_assoc, ne_eq]

theorem isTargetBreak_eq_false_iff {c : Char} :
    isTargetBreak c = false ↔ isBlank c = false ∧ c ≠ ':' := by
  simp only [isTargetBreak, Bool.or_eq_false_iff, decide_eq_false_iff_not, ne_eq]

/-- A line that defines a variable is read as such. -/
theorem DefinesVariable.read? {line name rest : Text} (h : DefinesVariable line name rest) :
    Definition.read? line = some ⟨name, Text.trimStart rest⟩ := by
  obtain ⟨blanks, hblanks, rfl⟩ := h.line_eq
  have hname : ∀ c ∈ name, (!isNameBreak c) = true := fun c hc => by
    rw [isNameBreak_eq_false_iff.mpr (h.name_chars c hc)]
    rfl
  -- whether there are blanks or not, what comes next ends the name
  obtain ⟨c, back, hback, hc⟩ : ∃ c back, blanks ++ ':' :: '=' :: rest = c :: back ∧
      (!isNameBreak c) = false := by
    cases blanks with
    | nil => exact ⟨_, _, rfl, by decide⟩
    | cons c blanks =>
      refine ⟨_, _, rfl, ?_⟩
      rw [isNameBreak, hblanks c (List.mem_cons_self ..)]
      rfl
  have htake : (name ++ (blanks ++ ':' :: '=' :: rest)).takeWhile (!isNameBreak ·) = name := by
    rw [hback, Text.takeWhile_append_cons hname hc]
  have hdrop : (name ++ (blanks ++ ':' :: '=' :: rest)).dropWhile (!isNameBreak ·) =
      blanks ++ ':' :: '=' :: rest := by
    rw [hback, Text.dropWhile_append_cons hname hc]
  have hsign : (blanks ++ ':' :: '=' :: rest).dropWhile isBlank = ':' :: '=' :: rest :=
    Text.dropWhile_append_cons hblanks (by decide) _
  rw [List.append_assoc, Definition.read?, htake, hdrop, hsign]
  exact if_pos h.name_ne_nil

/-- Exactly the lines that define a variable are read as such. -/
theorem Definition.read?_eq_some_iff {line : Text} {d : Definition} :
    read? line = some d ↔
      ∃ rest, DefinesVariable line d.name rest ∧ d.value = Text.trimStart rest := by
  refine ⟨fun h => ?_, ?_⟩
  · unfold read? at h
    split at h
    · next value hsign =>
      split at h
      · next hne =>
        obtain rfl := Option.some.inj h
        refine ⟨value, ⟨hne, fun c hc => ?_,
          (line.dropWhile (!isNameBreak ·)).takeWhile isBlank, fun c hc => ?_, ?_⟩, rfl⟩
        · exact isNameBreak_eq_false_iff.mp (by simpa using List.mem_takeWhile_imp hc)
        · exact List.mem_takeWhile_imp hc
        · rw [← hsign, List.append_assoc, List.takeWhile_append_dropWhile,
            List.takeWhile_append_dropWhile]
      · cases h
    · cases h
  · rintro ⟨rest, hline, hvalue⟩
    rw [hline.read?, ← hvalue]

/-- Exactly the lines that define a target are read as such. -/
theorem targetName?_eq_some_iff {line name : Text} :
    targetName? line = some name ↔ DefinesTarget line name := by
  refine ⟨fun h => ?_, fun h => ?_⟩
  · unfold targetName? at h
    split at h
    · next c front rest hfront hrest =>
      split at h
      · cases h
      · next hc =>
        obtain rfl := Option.some.inj h
        refine ⟨List.cons_ne_nil c front, fun x hx => ?_, fun hdot => hc (Option.some.inj hdot), ?_⟩
        · rw [← hfront] at hx
          exact isTargetBreak_eq_false_iff.mp (by simpa using List.mem_takeWhile_imp hx)
        · exact ⟨rest, by rw [← hfront, ← hrest, List.takeWhile_append_dropWhile]⟩
    · cases h
  · obtain ⟨rest, rfl⟩ := h.line_eq
    have hpass : ∀ c ∈ name, (!isTargetBreak c) = true := fun c hc => by
      rw [isTargetBreak_eq_false_iff.mpr (h.name_chars c hc)]
      rfl
    have htake : (name ++ ':' :: rest).takeWhile (!isTargetBreak ·) = name :=
      Text.takeWhile_append_cons hpass (by decide) rest
    have hdrop : (name ++ ':' :: rest).dropWhile (!isTargetBreak ·) = ':' :: rest :=
      Text.dropWhile_append_cons hpass (by decide) rest
    obtain ⟨c, front, rfl⟩ := List.exists_cons_of_ne_nil h.name_ne_nil
    have hc : c ≠ '.' := fun hdot => h.name_dot (congrArg some hdot)
    simp only [targetName?, htake, hdrop, if_neg hc]

/-- A line that defines a variable defines a target as well exactly if the sign
follows the name at once and the name does not begin with a dot. The target then
has that name. -/
theorem DefinesVariable.definesTarget_iff {line name rest target : Text}
    (h : DefinesVariable line name rest) :
    DefinesTarget line target ↔
      target = name ∧ name ++ [':', '='] <+: line ∧ name.head? ≠ some '.' := by
  obtain ⟨blanks, hblanks, rfl⟩ := h.line_eq
  refine ⟨fun ht => ?_, ?_⟩
  · have hbreak : ∀ c ∈ name, (!isTargetBreak c) = true := fun c hc => by
      rw [isTargetBreak_eq_false_iff.mpr ⟨(h.name_chars c hc).1, (h.name_chars c hc).2.1⟩]
      rfl
    have htarget : ∀ c ∈ target, (!isTargetBreak c) = true := fun c hc => by
      rw [isTargetBreak_eq_false_iff.mpr (ht.name_chars c hc)]
      rfl
    obtain ⟨behind, hline⟩ := ht.line_eq
    -- what follows the name is a blank or the sign, and what follows the target is a colon
    cases blanks with
    | nil =>
      rw [List.append_nil] at hline ⊢
      have hname := congrArg (List.takeWhile (!isTargetBreak ·)) hline
      rw [Text.takeWhile_append_cons hbreak (by decide),
        Text.takeWhile_append_cons htarget (by decide)] at hname
      obtain rfl := hname
      exact ⟨rfl, ⟨rest, by simp⟩, ht.name_dot⟩
    | cons c blanks =>
      have hc : (!isTargetBreak c) = false := by
        rw [isTargetBreak, hblanks c (List.mem_cons_self ..)]
        rfl
      have hdrop := congrArg (List.dropWhile (!isTargetBreak ·)) hline
      rw [List.append_assoc, List.cons_append, Text.dropWhile_append_cons hbreak hc,
        Text.dropWhile_append_cons htarget (by decide)] at hdrop
      have hblank := hblanks c (List.mem_cons_self ..)
      rw [(List.cons.inj hdrop).1] at hblank
      exact absurd hblank (by decide)
  · rintro ⟨rfl, ⟨behind, hsign⟩, hdot⟩
    exact ⟨h.name_ne_nil, fun c hc => ⟨(h.name_chars c hc).1, (h.name_chars c hc).2.1⟩, hdot,
      '=' :: behind, by rw [← hsign]; simp⟩

/-! ## What a line adds -/

/-- What a line adds to the database. -/
@[ext] structure Addition where
  /-- the variable that it defines, with its words -/
  definition : Option (Text × List Text)
  /-- the target that it defines -/
  target : Option Text

/-- What this line adds. -/
def Addition.ofLine (line : Text) : Addition where
  definition := (Definition.read? line).map fun d => (d.name, Text.words d.value)
  target := targetName? line

theorem Addition.definition_ofLine {line name : Text} {ws : List Text} :
    (ofLine line).definition = some (name, ws) ↔
      ∃ rest, DefinesVariable line name rest ∧ ws = Text.words (Text.trimStart rest) := by
  rw [ofLine, Option.map_eq_some_iff]
  refine ⟨?_, ?_⟩
  · rintro ⟨d, hread, hd⟩
    obtain ⟨rest, hline, hvalue⟩ := Definition.read?_eq_some_iff.mp hread
    obtain ⟨rfl, rfl⟩ := Prod.mk.inj hd
    exact ⟨rest, hline, by rw [hvalue]⟩
  · rintro ⟨rest, hline, rfl⟩
    exact ⟨_, hline.read?, rfl⟩

theorem Addition.exists_definition_ofLine {line name : Text} :
    (∃ ws, (ofLine line).definition = some (name, ws)) ↔ ∃ rest, DefinesVariable line name rest := by
  simp only [definition_ofLine]
  exact ⟨fun ⟨_, rest, h, _⟩ => ⟨rest, h⟩, fun ⟨rest, h⟩ => ⟨_, rest, h, rfl⟩⟩

namespace Database

/-- The database with one more addition. -/
def add (db : Database) (a : Addition) : Database where
  vars := match a.definition with
    | some (name, ws) => db.vars.insert name ws
    | none => db.vars
  targets := match a.target with
    | some name => db.targets.insert name
    | none => db.targets

/-- The database that these additions make. -/
def ofAdditions (as : List Addition) : Database := as.foldl add empty

theorem ofAdditions_concat (as : List Addition) (a : Addition) :
    ofAdditions (as ++ [a]) = (ofAdditions as).add a := by
  rw [ofAdditions, List.foldl_append]
  rfl

/-- A line matters only through what it adds. -/
theorem record_eq (db : Database) (line : Text) : db.record line = db.add (.ofLine line) := by
  rw [record, recordTarget, recordVariable, add, Addition.ofLine]
  cases Definition.read? line <;> cases targetName? line <;> rfl

theorem ofLines_eq (lines : List Text) : ofLines lines = ofAdditions (lines.map .ofLine) := by
  rw [ofLines, ofAdditions, List.foldl_map]
  exact congrArg (lines.foldl · empty) (funext₂ record_eq)

/-- The variables are defined as their last definitions say. -/
theorem get?_ofAdditions {as : List Addition} {name : Text} {ws : List Text} :
    (ofAdditions as).vars.get? name = some ws ↔
      ∃ a, IsLastWith (fun a => ∃ ws, a.definition = some (name, ws)) as a ∧
        a.definition = some (name, ws) := by
  induction as using List.reverseRecOn with
  | nil => simp [ofAdditions, empty, not_isLastWith_nil]
  | append_singleton as a ih =>
    rw [ofAdditions_concat]
    by_cases hname : ∃ ws, a.definition = some (name, ws)
    · -- the new definition takes the place of whatever there was
      obtain ⟨ws', ha⟩ := hname
      have hget : ((ofAdditions as).add a).vars.get? name = some ws' := by
        simp only [add, ha, Variables.get?_insert_self]
      rw [hget]
      refine ⟨fun h => ?_, ?_⟩
      · obtain rfl := Option.some.inj h
        exact ⟨a, isLastWith_concat.mpr (.inl ⟨rfl, _, ha⟩), ha⟩
      · rintro ⟨b, hlast, hb⟩
        rcases isLastWith_concat.mp hlast with ⟨rfl, -⟩ | ⟨hnot, -⟩
        · exact congrArg some (Prod.mk.inj (Option.some.inj (ha.symm.trans hb))).2
        · exact absurd ⟨ws', ha⟩ hnot
    · have hget : ((ofAdditions as).add a).vars.get? name = (ofAdditions as).vars.get? name := by
        cases ha : a.definition with
        | none => simp only [add, ha]
        | some d =>
          have hne : d.1 ≠ name := fun h => hname ⟨d.2, by rw [ha, ← h]⟩
          simp only [add, ha, Variables.get?_insert, if_neg hne]
      rw [hget, ih]
      refine ⟨?_, ?_⟩
      · rintro ⟨b, hlast, hb⟩
        exact ⟨b, isLastWith_concat.mpr (.inr ⟨hname, hlast⟩), hb⟩
      · rintro ⟨b, hlast, hb⟩
        rcases isLastWith_concat.mp hlast with ⟨rfl, hpos⟩ | ⟨-, hlast⟩
        · exact absurd hpos hname
        · exact ⟨b, hlast, hb⟩

/-- The targets are all that are added. -/
theorem contains_ofAdditions {as : List Addition} {name : Text} :
    (ofAdditions as).targets.contains name = true ↔ ∃ a ∈ as, a.target = some name := by
  induction as using List.reverseRecOn with
  | nil => simp [ofAdditions, empty]
  | append_singleton as a ih =>
    have hadd : ((ofAdditions as).add a).targets.contains name = true ↔
        (ofAdditions as).targets.contains name = true ∨ a.target = some name := by
      cases ha : a.target with
      | none => simp only [add, ha, reduceCtorEq, or_false]
      | some n =>
        simp only [add, ha, Std.TreeSet.contains_insert, Bool.or_eq_true, beq_iff_eq,
          Std.LawfulEqCmp.compare_eq_iff_eq, Option.some.injEq]
        exact or_comm
    rw [ofAdditions_concat, hadd, ih]
    simp only [List.mem_append, List.mem_singleton, or_and_right, exists_or, exists_eq_left]

/-- The last line that defines a variable says what it is. -/
theorem get?_ofLines {lines : List Text} {name : Text} {ws : List Text} :
    (ofLines lines).vars.get? name = some ws ↔
      ∃ line, IsLastWith (fun l => ∃ r, DefinesVariable l name r) lines line ∧
        ∃ rest, DefinesVariable line name rest ∧ ws = Text.words (Text.trimStart rest) := by
  rw [ofLines_eq, get?_ofAdditions]
  simp only [isLastWith_map, Addition.exists_definition_ofLine]
  refine ⟨?_, ?_⟩
  · rintro ⟨_, ⟨line, rfl, hlast⟩, hline⟩
    exact ⟨line, hlast, Addition.definition_ofLine.mp hline⟩
  · rintro ⟨line, hlast, hline⟩
    exact ⟨_, ⟨line, rfl, hlast⟩, Addition.definition_ofLine.mpr hline⟩

/-- Every line that defines a target counts. -/
theorem contains_ofLines {lines : List Text} {name : Text} :
    (ofLines lines).targets.contains name = true ↔ ∃ line ∈ lines, DefinesTarget line name := by
  rw [ofLines_eq, contains_ofAdditions]
  refine ⟨?_, ?_⟩
  · rintro ⟨_, ha, htarget⟩
    obtain ⟨line, hline, rfl⟩ := List.mem_map.mp ha
    exact ⟨line, hline, targetName?_eq_some_iff.mp htarget⟩
  · rintro ⟨line, hline, htarget⟩
    exact ⟨_, List.mem_map_of_mem hline, targetName?_eq_some_iff.mpr htarget⟩

end Database

/-! ## What is read -/

/-- A database holds what these lines define, and nothing else. -/
structure Database.Holds (db : Database) (lines : List Text) : Prop where
  /-- the variables are those that a line defines -/
  isSome_iff : ∀ name, (∃ ws, db.vars.get? name = some ws) ↔
    ∃ line ∈ lines, ∃ rest, DefinesVariable line name rest
  /-- a variable has the words of its last definition -/
  get?_of_last : ∀ name line rest,
    IsLastWith (fun l => ∃ r, DefinesVariable l name r) lines line →
      DefinesVariable line name rest → db.vars.get? name = some (Text.words (Text.trimStart rest))
  /-- the targets are those that a line defines -/
  contains_iff : ∀ name, db.targets.contains name = true ↔ ∃ line ∈ lines, DefinesTarget line name

namespace Database

/-- What is made of some lines holds what they define. -/
theorem holds_ofLines (lines : List Text) : (ofLines lines).Holds lines := by
  refine ⟨fun name => ⟨?_, fun h => ?_⟩, fun name line rest hlast hline => ?_,
    fun name => contains_ofLines⟩
  · rintro ⟨ws, hws⟩
    obtain ⟨line, hlast, -⟩ := get?_ofLines.mp hws
    exact ⟨line, hlast.mem, hlast.1⟩
  · obtain ⟨line, hlast⟩ := exists_isLastWith h
    obtain ⟨rest, hline⟩ := hlast.1
    exact ⟨_, get?_ofLines.mpr ⟨line, hlast, rest, hline, rfl⟩⟩
  · exact get?_ofLines.mpr ⟨line, hlast, rest, hline, rfl⟩

/-- A line of neither form adds nothing. -/
theorem record_of_forall_not (db : Database) {line : Text}
    (hvariable : ∀ name rest, ¬ DefinesVariable line name rest)
    (htarget : ∀ name, ¬ DefinesTarget line name) : db.record line = db := by
  have hdefinition : (Addition.ofLine line).definition = none := by
    rw [Option.eq_none_iff_forall_ne_some]
    intro d hd
    obtain ⟨rest, hline, -⟩ := Addition.definition_ofLine.mp hd
    exact hvariable d.1 rest hline
  have hname : (Addition.ofLine line).target = none := by
    rw [Option.eq_none_iff_forall_ne_some]
    exact fun name h => htarget name (targetName?_eq_some_iff.mp h)
  rw [record_eq, add, hdefinition, hname]

end Database

/-! ## Which collections a line feeds -/

/-- Whatever is known already, a line makes the variables hold a definition of
this name. -/
def FeedsVariables (line name : Text) : Prop :=
  ∃ ws, ∀ db : Database, (db.record line).vars = db.vars.insert name ws

/-- Whatever is known already, a line makes the targets hold this name. -/
def FeedsTargets (line name : Text) : Prop :=
  ∀ db : Database, (db.record line).targets = db.targets.insert name

theorem feedsVariables_iff {line name : Text} :
    FeedsVariables line name ↔ ∃ rest, DefinesVariable line name rest := by
  refine ⟨?_, ?_⟩
  · rintro ⟨ws, h⟩
    have hget : (Database.ofLines [line]).vars.get? name = some ws := by
      rw [Database.ofLines, List.foldl_cons, List.foldl_nil, h, Variables.get?_insert_self]
    obtain ⟨l, hlast, rest, hline, -⟩ := Database.get?_ofLines.mp hget
    rw [List.mem_singleton.mp hlast.mem] at hline
    exact ⟨rest, hline⟩
  · rintro ⟨rest, h⟩
    refine ⟨Text.words (Text.trimStart rest), fun db => ?_⟩
    rw [Database.record_eq, Database.add, Addition.definition_ofLine.mpr ⟨rest, h, rfl⟩]

theorem feedsTargets_iff {line name : Text} : FeedsTargets line name ↔ DefinesTarget line name := by
  refine ⟨fun h => ?_, fun h db => ?_⟩
  · have hcontains : (Database.ofLines [line]).targets.contains name = true := by
      rw [Database.ofLines, List.foldl_cons, List.foldl_nil, h]
      exact Std.TreeSet.contains_insert_self
    obtain ⟨l, hl, hdefines⟩ := Database.contains_ofLines.mp hcontains
    rwa [List.mem_singleton.mp hl] at hdefines
  · have htarget : (Addition.ofLine line).target = some name := targetName?_eq_some_iff.mpr h
    rw [Database.record_eq, Database.add, htarget]

/-- **A printed database is read as its grammar says.** Whatever bytes a stream
holds, if it does not break then what is read are the variables and targets that
its lines define, a variable with the words of its last definition. Lines of
neither form might as well not be there. A line feeds both collections exactly
if the sign follows the variable's name at once and the name does not begin with
a dot, and then both under that name. -/
theorem read_eq_grammar (what : Text) (data : Bytes) :
    (∃ db, Database.read what (.ofBytes data) = .ok db ∧ db.Holds (Stream.ofBytes data).lines ∧
      ∀ front line back, (Stream.ofBytes data).lines = front ++ line :: back →
        (∀ name rest, ¬ DefinesVariable line name rest) → (∀ name, ¬ DefinesTarget line name) →
          db = Database.ofLines (front ++ back)) ∧
      ∀ line name target, FeedsVariables line name ∧ FeedsTargets line target ↔
        (∃ rest, DefinesVariable line name rest) ∧ target = name ∧
          name ++ [':', '='] <+: line ∧ name.head? ≠ some '.' := by
  refine ⟨⟨_, rfl, Database.holds_ofLines _, ?_⟩, fun line name target => ?_⟩
  · intro front line back hlines hvariable htarget
    rw [hlines, Database.ofLines, Database.ofLines, List.foldl_append, List.foldl_cons,
      Database.record_of_forall_not _ hvariable htarget, List.foldl_append]
  · rw [feedsVariables_iff, feedsTargets_iff]
    refine and_congr_right ?_
    rintro ⟨rest, h⟩
    exact h.definesTarget_iff

end TargetHelp
