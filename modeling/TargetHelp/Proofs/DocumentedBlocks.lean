import TargetHelp.Proofs.CrossProduct
import TargetHelp.Proofs.DatabaseGrammar
import TargetHelp.Proofs.Indentation
import TargetHelp.Proofs.Segments
import TargetHelp.Proofs.Trimming
import TargetHelp.Proofs.WrittenLines

/-!
# Documented blocks, written and read back

An author documents a target by a block (`DocBlock`): the usage text, line by
line, the line that names the category somewhere among them, the line that
defines the target, and its recipe. Whoever reads a makefile that consists of
such blocks gets the blocks back, one entry each (`read_written_blocks`).

A line may lose a carriage return at its end on the way, so what has to be known
of a written line is what it is to the annotations however it is read
(`ReadsAs`). The rest is a matter of marks: a block begins with nothing
collected, and its recipe leaves nothing behind.
-/

namespace TargetHelp

/-- What usage text does not begin with, since the line would name a category. -/
def Mark.categoryWord : Text := ['@', 'c', 'a', 't', 'e', 'g', 'o', 'r', 'y']

/-- A documented block as its author means it. -/
structure DocBlock where
  /-- the category, empty if none is to be named -/
  category : Text
  /-- the usage text, line by line -/
  usage : List Text
  /-- the number of usage lines above the line that names the category -/
  position : Nat
  /-- the name of the target -/
  name : Text
  /-- what stands behind the colon in the line that defines the target -/
  behind : Text
  /-- the lines of the recipe -/
  recipe : List Text
  /-- the category has no blanks at its ends -/
  category_trim : Text.trim category = category := by decide
  /-- the category is one line -/
  category_newline : '\n' ∉ category := by decide
  /-- there is usage text -/
  usage_ne_nil : usage ≠ [] := by decide
  /-- usage lines are lines -/
  usage_newline : ∀ u ∈ usage, '\n' ∉ u := by decide
  /-- no usage line ends in what could be part of the line's end -/
  usage_return : ∀ u ∈ usage, u.getLast? ≠ some '\r' := by decide
  /-- no usage line looks as if it named a category -/
  usage_sign : ∀ u ∈ usage, ¬ Mark.categoryWord <+: u := by decide
  /-- the first usage line is not indented -/
  usage_indent : ∀ u ∈ usage.head?, u.head? ≠ some ' ' := by decide
  /-- the target has a name -/
  name_ne_nil : name ≠ [] := by decide
  /-- the name ends at the colon behind it, and refers to no variables -/
  name_chars : ∀ c ∈ name, isBlank c = false ∧ c ≠ ':' ∧ c ≠ '$' := by simp; decide
  /-- the name is not one of the build tool's own -/
  name_dot : name.head? ≠ some '.' := by decide
  /-- the name does not look like usage text -/
  name_sign : ¬ Mark.usageSign <+: name := by decide
  /-- the line that defines the target is one line -/
  behind_newline : '\n' ∉ behind := by decide
  /-- the lines of the recipe are lines -/
  recipe_newline : ∀ r ∈ recipe, '\n' ∉ r := by decide
  /-- the lines of the recipe begin with a tab -/
  recipe_tab : ∀ r ∈ recipe, r.head? = some '\t' := by decide

namespace DocBlock

/-- A usage line as it is written. -/
def usageLine (u : Text) : Text := Mark.usageSign ++ ' ' :: u

/-- The line that names the category, if one is to be named. -/
def categoryLines (b : DocBlock) : List Text :=
  if b.category = [] then [] else [Mark.categorySign ++ ' ' :: b.category]

/-- The lines of a block as they are written. -/
def lines (b : DocBlock) : List Text :=
  (b.usage.take b.position).map usageLine ++ b.categoryLines ++
    (b.usage.drop b.position).map usageLine ++ (b.name ++ ':' :: b.behind) :: b.recipe

/-- What a block documents. -/
def entry (b : DocBlock) : Entry := ⟨b.name, b.category, Text.unlines b.usage⟩

end DocBlock

/-! ## Lines and their marks -/

/-- However a line is read, it is this to the annotations around it. -/
def ReadsAs (line : Text) (mark : Mark) : Prop :=
  ∀ read, ReadAs line read → Mark.ofLine read = mark

/-! ## What the lines of a block are -/

namespace DocBlock

/-- Usage lines as marks. The space behind the sign is still in front of them. -/
def usageMarks (us : List Text) : List Mark := us.map fun u => .usage (' ' :: u)

/-- The line that names the category, if there is one, as a mark. -/
def categoryMarks (b : DocBlock) : List Mark :=
  if b.category = [] then [] else [.category b.category]

/-- The lines above the target as marks. -/
def marksAbove (b : DocBlock) : List Mark :=
  usageMarks (b.usage.take b.position) ++ b.categoryMarks ++ usageMarks (b.usage.drop b.position)

/-- The lines of a block as marks. -/
def marks (b : DocBlock) : List Mark :=
  b.marksAbove ++ .closing (some b.name) :: b.recipe.map fun _ => .closing none

end DocBlock

/-- A beginning without some character ends before that character does. -/
theorem isPrefix_of_isPrefix_append_cons {sign front back : Text} {c : Char} (hc : c ∉ sign)
    (h : sign <+: front ++ c :: back) : sign <+: front := by
  rcases Nat.lt_or_ge front.length sign.length with hlt | hle
  · have hfront : front ++ [c] <+: sign := by
      have hline : front ++ [c] <+: front ++ c :: back := ⟨back, by simp⟩
      refine List.prefix_of_prefix_length_le hline h ?_
      rwa [List.length_append, List.length_singleton]
    exact absurd (hfront.subset (List.mem_append_right _ (List.mem_singleton_self c))) hc
  · exact List.prefix_of_prefix_length_le h (List.prefix_append ..) hle

/-- Blanks in front of a text are trimmed off it. -/
theorem Text.trim_space_cons (t : Text) : trim (' ' :: t) = trim t := by
  rw [trim, trimStart, List.dropWhile_cons_of_pos (by decide)]
  rfl

/-! ## However they are read -/

namespace DocBlock

/-- A usage line is usage text. -/
theorem readsAs_usageLine {u : Text} (hlast : u.getLast? ≠ some '\r')
    (hsign : ¬ Mark.categoryWord <+: u) : ReadsAs (usageLine u) (.usage (' ' :: u)) := by
  intro read hread
  have hne : (usageLine u).getLast? ≠ some '\r' := by
    rw [usageLine, List.getLast?_append_cons]
    by_cases hu : u = []
    · rw [hu]
      decide
    · rwa [List.getLast?_cons_of_ne_nil hu]
  have hcategory : ¬ Mark.categorySign <+: usageLine u := by
    intro h
    -- the sign is the one of usage text, a space, and the word that no usage text begins with
    have h' : (Mark.usageSign ++ [' ']) ++ Mark.categoryWord <+: (Mark.usageSign ++ [' ']) ++ u := h
    exact hsign ((List.prefix_append_right_inj _).mp h')
  have husage : Mark.usageSign <+: usageLine u := List.prefix_append ..
  have hkind : LineKind.of (usageLine u) = .usage := by
    rw [LineKind.of, if_neg hcategory, if_pos husage]
  rw [hread.eq hne, Mark.ofLine_eq, hkind]
  rfl

/-- The line that names the category does so. -/
theorem readsAs_categoryLine {g : Text} (hne : g ≠ []) (htrim : Text.trim g = g) :
    ReadsAs (Mark.categorySign ++ ' ' :: g) (.category g) := by
  intro read hread
  have hlast : (Mark.categorySign ++ ' ' :: g).getLast? ≠ some '\r' := by
    rw [List.getLast?_append_cons, List.getLast?_cons_of_ne_nil hne]
    intro h
    rw [← htrim] at h
    exact absurd (Text.not_isBlank_of_mem_getLast? h) (by decide)
  have hkind : LineKind.of (Mark.categorySign ++ ' ' :: g) = .category :=
    if_pos (List.prefix_append ..)
  rw [hread.eq hlast, Mark.ofLine_eq, hkind]
  change Mark.category (Text.trim (' ' :: g)) = .category g
  rw [Text.trim_space_cons, htrim]

/-- The line that defines the target closes the block. -/
theorem readsAs_targetLine (b : DocBlock) :
    ReadsAs (b.name ++ ':' :: b.behind) (.closing (some b.name)) := by
  intro read hread
  obtain ⟨behind, rfl⟩ := hread.of_append_cons (by decide)
  -- no sign has a colon in it, so it would have to end inside the name
  have husage : ¬ Mark.usageSign <+: b.name ++ ':' :: behind :=
    fun h => b.name_sign (isPrefix_of_isPrefix_append_cons (by decide) h)
  have hcategory : ¬ Mark.categorySign <+: b.name ++ ':' :: behind :=
    fun h => husage (List.IsPrefix.trans ⟨_, rfl⟩ h)
  have hphony : ¬ Mark.phonySign <+: b.name ++ ':' :: behind := by
    intro h
    obtain ⟨rest, hrest⟩ := isPrefix_of_isPrefix_append_cons (by decide) h
    apply b.name_dot
    rw [← hrest]
    rfl
  have hkind : LineKind.of (b.name ++ ':' :: behind) = .closing := by
    rw [LineKind.of, if_neg hcategory, if_neg husage, if_neg hphony]
  have hname : ∀ c ∈ b.name, isBlank c = false ∧ c ≠ ':' :=
    fun c hc => ⟨(b.name_chars c hc).1, (b.name_chars c hc).2.1⟩
  have htarget : targetName? (b.name ++ ':' :: behind) = some b.name :=
    targetName?_eq_some_iff.mpr ⟨b.name_ne_nil, hname, b.name_dot, behind, rfl⟩
  rw [Mark.ofLine_eq, hkind, htarget]

/-- A line of the recipe closes the block that is no longer there. -/
theorem readsAs_recipeLine {r : Text} (h : r.head? = some '\t') : ReadsAs r (.closing none) := by
  intro read hread
  obtain ⟨r, rfl⟩ : ∃ rest, r = '\t' :: rest := List.head?_eq_some_iff.mp h
  obtain ⟨r, rfl⟩ := @ReadAs.of_append_cons [] r read '\t' (by decide) hread
  rfl

/-- Usage lines are read as usage lines. -/
theorem readsAs_usageLines (b : DocBlock) {us : List Text} (hus : us ⊆ b.usage) :
    List.Forall₂ ReadsAs (us.map usageLine) (usageMarks us) := by
  rw [usageMarks, List.forall₂_map_left_iff, List.forall₂_map_right_iff, List.forall₂_same]
  intro u hu
  exact readsAs_usageLine (b.usage_return u (hus hu)) (b.usage_sign u (hus hu))

/-- The line that names the category is read as such, if there is one. -/
theorem readsAs_categoryLines (b : DocBlock) :
    List.Forall₂ ReadsAs b.categoryLines b.categoryMarks := by
  rw [categoryLines, categoryMarks]
  split
  · exact .nil
  · next hne => exact .cons (readsAs_categoryLine hne b.category_trim) .nil

/-- The lines of a recipe close what is no longer there. -/
theorem readsAs_recipe (b : DocBlock) :
    List.Forall₂ ReadsAs b.recipe (b.recipe.map fun _ => .closing none) := by
  rw [List.forall₂_map_right_iff, List.forall₂_same]
  exact fun r hr => readsAs_recipeLine (b.recipe_tab r hr)

/-- The lines of a block are read as the block means them. -/
theorem readsAs_lines (b : DocBlock) : List.Forall₂ ReadsAs b.lines b.marks := by
  have habove := List.rel_append
    (List.rel_append (b.readsAs_usageLines (List.take_subset b.position _)) b.readsAs_categoryLines)
    (b.readsAs_usageLines (List.drop_subset b.position _))
  exact List.rel_append habove (.cons b.readsAs_targetLine b.readsAs_recipe)

/-- The lines of blocks one below the other are read as the blocks mean them. -/
theorem readsAs_flatMap_lines (blocks : List DocBlock) :
    List.Forall₂ ReadsAs (blocks.flatMap lines) (blocks.flatMap marks) := by
  induction blocks with
  | nil => exact .nil
  | cons b blocks ih => exact List.rel_append b.readsAs_lines ih

/-- No line of a block holds a newline. -/
theorem newline_not_mem_lines (b : DocBlock) : ∀ l ∈ b.lines, '\n' ∉ l := by
  have husage : ∀ u ∈ b.usage, '\n' ∉ usageLine u := by
    intro u hu
    simpa [usageLine, Mark.usageSign] using b.usage_newline u hu
  have hcategory : ∀ l ∈ b.categoryLines, '\n' ∉ l := by
    intro l hl
    rw [categoryLines] at hl
    split at hl
    · cases hl
    · rw [List.mem_singleton.mp hl]
      simpa [Mark.categorySign] using b.category_newline
  have htarget : '\n' ∉ b.name ++ ':' :: b.behind := by
    have hname : '\n' ∉ b.name := fun h => absurd (b.name_chars _ h).1 (by decide)
    simpa [hname] using b.behind_newline
  intro l hl
  simp only [lines, List.mem_append, List.mem_cons, List.mem_map] at hl
  rcases hl with ((⟨u, hu, rfl⟩ | hl) | ⟨u, hu, rfl⟩) | rfl | hl
  · exact husage u (List.mem_of_mem_take hu)
  · exact hcategory l hl
  · exact husage u (List.mem_of_mem_drop hu)
  · exact htarget
  · exact b.recipe_newline l hl

end DocBlock

/-! ## From marks back to blocks -/

/-- Usage lines that are one space further in are what they are further out. -/
theorem Text.unindent_map_space {us : List Text} (h : ∀ u ∈ us.head?, u.head? ≠ some ' ') :
    unindent (us.map (' ' :: ·)) = us := by
  have hfirst : ∀ u ∈ us.head?, IndentedBy 0 u := fun u hu => ⟨u, rfl, h u hu⟩
  have hall : ∀ u ∈ us, indent 0 <+: u := fun u _ => List.nil_prefix
  exact (unindent_map_indent hfirst hall 1).trans (unindent_of_head? h)

namespace DocBlock

/-- Usage lines add to the usage text and to nothing else. -/
theorem foldl_usageMarks (block : Block) (us : List Text) :
    (usageMarks us).foldl Block.next block =
      ⟨block.category, block.usage ++ us.map (' ' :: ·)⟩ := by
  induction us generalizing block with
  | nil => simp [usageMarks]
  | cons u us ih =>
    change (usageMarks us).foldl Block.next (block.next (.usage (' ' :: u))) = _
    rw [ih]
    simp [Block.next]

/-- What is collected above a target, wherever the line with the category
stands. -/
theorem foldl_marksAbove (b : DocBlock) :
    b.marksAbove.foldl Block.next .empty = ⟨b.category, b.usage.map (' ' :: ·)⟩ := by
  have hcategory : ∀ us, b.categoryMarks.foldl Block.next ⟨Block.empty.category, us⟩ =
      ⟨b.category, us⟩ := by
    intro us
    rw [categoryMarks]
    split
    · next h => rw [h]; rfl
    · rfl
  rw [marksAbove, List.foldl_append, List.foldl_append, foldl_usageMarks .empty, hcategory,
    foldl_usageMarks, List.append_assoc, ← List.map_append, List.take_append_drop]
  rfl

/-- Nothing above a target defines one. -/
theorem closing_not_mem_marksAbove (b : DocBlock) (name : Text) :
    .closing (some name) ∉ b.marksAbove := by
  have husage : ∀ us, .closing (some name) ∉ usageMarks us := by
    intro us h
    obtain ⟨_, _, h⟩ := List.mem_map.mp h
    cases h
  have hcategory : .closing (some name) ∉ b.categoryMarks := by
    intro h
    rw [categoryMarks] at h
    split at h
    · cases h
    · cases List.mem_singleton.mp h
  simp only [marksAbove, List.mem_append, not_or]
  exact ⟨⟨husage _, hcategory⟩, husage _⟩

/-- Behind the line that defines the target nothing is collected any more. -/
theorem foldl_closing (block : Block) (target : Option Text) (recipe : List Text) :
    (.closing target :: recipe.map fun _ => Mark.closing none).foldl Block.next block = .empty := by
  induction recipe generalizing block target with
  | nil => rfl
  | cons _ recipe ih => exact ih (block.next (.closing target)) none

/-- What a block gives to its target: the one entry that it means. -/
theorem entries_closing (db : Database) (b : DocBlock)
    (hknown : db.targets.contains b.name = true) :
    Block.entries db ⟨b.category, b.usage.map (' ' :: ·)⟩ (.closing (some b.name)) = [b.entry] := by
  have hne : b.usage.map (' ' :: ·) ≠ [] := fun h => b.usage_ne_nil (List.map_eq_nil_iff.mp h)
  have hexpand : db.vars.expand b.name = [b.name] :=
    db.vars.expand_of_not_mem fun h => (b.name_chars _ h).2.2 rfl
  simp only [Block.entries, List.isEmpty_iff, if_neg hne, Block.document, hexpand,
    List.filter_cons, hknown, if_true, List.filter_nil, List.map_cons, List.map_nil,
    Text.unindent_map_space b.usage_indent]
  rfl

/-- A block is read back as its entry, and what follows is read as if it stood
alone. -/
theorem ofMarks_marks_append (db : Database) (b : DocBlock)
    (hknown : db.targets.contains b.name = true) (rest : List Mark) :
    Entry.ofMarks db .empty (b.marks ++ rest) = b.entry :: Entry.ofMarks db .empty rest := by
  have hrecipe : ∀ name, .closing (some name) ∉ b.recipe.map fun _ => Mark.closing none := by
    intro name h
    obtain ⟨_, _, h⟩ := List.mem_map.mp h
    cases h
  have hblock : Entry.ofMarks db .empty b.marks = [b.entry] := by
    rw [marks, Entry.ofMarks_append, Entry.ofMarks_eq_nil db _ b.closing_not_mem_marksAbove,
      foldl_marksAbove, Entry.ofMarks, entries_closing db b hknown,
      Entry.ofMarks_eq_nil db _ hrecipe]
    rfl
  have hempty : b.marks.foldl Block.next .empty = .empty := by
    rw [marks, List.foldl_append, foldl_closing]
  rw [Entry.ofMarks_append, hblock, hempty]
  rfl

/-- Blocks one below the other are read back as their entries. -/
theorem ofMarks_flatMap_marks (db : Database) {blocks : List DocBlock}
    (hknown : ∀ b ∈ blocks, db.targets.contains b.name = true) :
    Entry.ofMarks db .empty (blocks.flatMap marks) = blocks.map entry := by
  induction blocks with
  | nil => rfl
  | cons b blocks ih =>
    rw [List.flatMap_cons, ofMarks_marks_append db b (hknown b (List.mem_cons_self ..)),
      ih fun b' hb' => hknown b' (List.mem_cons_of_mem _ hb'), List.map_cons]

end DocBlock

/-- **Documented blocks are read back.** However an author writes blocks for
targets that the build tool knows, with whatever ends of lines, reading them
yields one entry for each block, in order, with the name, the category and the
usage text that he meant. -/
theorem read_written_blocks (db : Database) (what : Text) {blocks : List DocBlock}
    (hknown : ∀ b ∈ blocks, db.targets.contains b.name = true) {t : Text}
    (h : Written (blocks.flatMap DocBlock.lines) t) :
    Entry.read db what (.ofBytes (Utf8.encode t)) = .ok (blocks.map DocBlock.entry) := by
  have hnewline : ∀ l ∈ blocks.flatMap DocBlock.lines, '\n' ∉ l := by
    intro l hl
    obtain ⟨b, -, hl⟩ := List.mem_flatMap.mp hl
    exact b.newline_not_mem_lines l hl
  have hmarks := map_eq_of_readAs (DocBlock.readsAs_flatMap_lines blocks)
    (lines_of_written h hnewline)
  refine congrArg Except.ok ?_
  rw [Entry.ofLines, hmarks, DocBlock.ofMarks_flatMap_marks db hknown]

/-- Two blocks with mixed ends of lines and none at the end: one for a target
whose name looks like a comment, with the category between its usage lines, one
without a category and with usage text that looks like a target. -/
theorem read_written_blocks_mixed_ends :
    Entry.read ⟨.empty, Std.TreeSet.ofList [['#', 'a'], ['b']]⟩ []
        (.ofBytes (Utf8.encode
          "## x\r\n## @category B\n## \n#a: d\n\tc\r\n## a:\r\nb:=".toList)) =
      .ok [⟨['#', 'a'], ['B'], ['x', '\n']⟩, ⟨['b'], [], ['a', ':']⟩] := by
  refine @read_written_blocks _ _
    [{ category := ['B'], usage := [['x'], []], position := 1, name := ['#', 'a'],
       behind := [' ', 'd'], recipe := [['\t', 'c']] },
     { category := [], usage := [['a', ':']], position := 0, name := ['b'],
       behind := ['='], recipe := [] }] ?_ _ ?_
  · decide
  · exact .cons _ .returnNewline <| .cons _ .newline <| .cons _ .newline <| .cons _ .newline <|
      .cons _ .returnNewline <| .cons _ .returnNewline <| .last (by decide)

end TargetHelp
