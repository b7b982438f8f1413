import TargetHelp.Proofs.Encoding
import TargetHelp.Proofs.Segments

/-!
# Known targets

What the build tool knows decides which names are documented, and nothing else.
The fewer targets it knows, the fewer entries a makefile has, but each of them
is the same: name, category, usage text, and the order they stand in
(`read_filter_known`).

What a line does to the block above it does not depend on the targets at all
(`Block.next`), so it suffices to look at one line (`Block.entries_filter_known`);
the rest is an induction along the lines. A block above an unknown target is
consumed like any other: it may be left out of the makefile, and the other
blocks are what they were.
-/

namespace TargetHelp

/-! ## Fewer targets -/

section FewerTargets

variable (vars : Variables) {known known' : Std.TreeSet Text} (h : ∀ name ∈ known, name ∈ known')

include h in
/-- A block documents those names above a target that are known. -/
theorem Block.document_filter_known (block : Block) (target : Text) :
    block.document ⟨vars, known⟩ target =
      (block.document ⟨vars, known'⟩ target).filter (·.name ∈ known) := by
  have hnames : ∀ names : List Text,
      names.filter (known.contains ·) = (names.filter (known'.contains ·)).filter (· ∈ known) := by
    intro names
    rw [List.filter_filter]
    refine List.filter_congr fun name _ => ?_
    rw [Bool.eq_iff_iff]
    simpa using h name
  rw [document, document, List.filter_map, hnames]
  rfl

include h in
/-- A line gives the entries with known names to the block above it. -/
theorem Block.entries_filter_known (block : Block) (m : Mark) :
    block.entries ⟨vars, known⟩ m =
      (block.entries ⟨vars, known'⟩ m).filter (·.name ∈ known) := by
  cases m with
  | category | usage | phony => rfl
  | closing target =>
    cases target with
    | none => rfl
    | some target =>
      rw [entries, entries]
      split
      · rfl
      · exact block.document_filter_known vars h target

namespace Entry

include h in
/-- Line by line, the entries with known names are left. The block is the same
below every line. -/
theorem ofMarks_filter_known (block : Block) (marks : List Mark) :
    ofMarks ⟨vars, known⟩ block marks =
      (ofMarks ⟨vars, known'⟩ block marks).filter (·.name ∈ known) := by
  induction marks generalizing block with
  | nil => rfl
  | cons m marks ih =>
    rw [ofMarks, ofMarks, List.filter_append, block.entries_filter_known vars h, ih]

include h in
/-- Every line of a makefile documents the known names among those that it would
document. -/
theorem entriesAt_filter_known (lines : List Text) (i : Nat) :
    entriesAt ⟨vars, known⟩ lines i =
      (entriesAt ⟨vars, known'⟩ lines i).filter (·.name ∈ known) := by
  rw [entriesAt, entriesAt]
  split
  · rw [Segment.above, ← Block.entries_after, ← Block.entries_after]
    exact (Block.after _).entries_filter_known vars h _
  · rfl

end Entry

end FewerTargets

/-! ## Blocks that document nothing -/

/-- A block above a target of which no name is known documents nothing. -/
theorem Entry.ofLines_eq_nil_of_unknown {db : Database} {segment : List Text} {line : Text}
    (hsegment : ∀ l ∈ segment, LineKind.of l ≠ .closing)
    (hunknown : ∀ target, targetName? line = some target →
      ∀ name ∈ db.vars.expand target, name ∉ db.targets) :
    ofLines db (segment ++ [line]) = [] := by
  have hopen : ofLines db segment = [] := by
    refine ofMarks_eq_nil db .empty fun name hmem => ?_
    obtain ⟨l, hl, hmark⟩ := List.mem_map.mp hmem
    rw [Mark.ofLine_eq] at hmark
    split at hmark
    · cases hmark
    · cases hmark
    · cases hmark
    · next hkind => exact hsegment l hl hkind
  have hclosing : Segment.entries db (Segment.unclosed segment) line = [] := by
    refine List.eq_nil_iff_forall_not_mem.mpr fun e he => ?_
    obtain ⟨target, htarget, hexpand, hknown, -, -⟩ := Segment.mem_entries he
    exact hunknown target htarget e.name hexpand (Std.TreeSet.contains_iff_mem.mp hknown)
  rw [ofLines_append, hopen, List.nil_append, List.map_singleton, ofMarks, ofMarks,
    Block.entries_after, hclosing, List.append_nil]

/-- Such a block may be left out, wherever no other is open above it. -/
theorem Entry.ofLines_drop_unknown {db : Database} {front segment : List Text} {line : Text}
    (hfront : Segment.unclosed front = []) (hsegment : ∀ l ∈ segment, LineKind.of l ≠ .closing)
    (hline : LineKind.of line = .closing)
    (hunknown : ∀ target, targetName? line = some target →
      ∀ name ∈ db.vars.expand target, name ∉ db.targets) (back : List Text) :
    ofLines db (front ++ (segment ++ [line] ++ back)) = ofLines db (front ++ back) := by
  rw [ofLines_append_of_unclosed db hfront, ofLines_append_of_unclosed db hfront,
    ofLines_append_of_closing db hline, ofLines_eq_nil_of_unknown hsegment hunknown,
    List.nil_append]

/-- **The known targets only filter.** Whatever a stream holds, and whether it
ends or breaks, reading it with fewer known targets gives the entries whose names
are still known, in the same order, each with the same category and usage text;
and so it is with every single line. A block above a target of which no name is
known may be left out without any change to the others. -/
theorem read_filter_known (vars : Variables) {known known' : Std.TreeSet Text}
    (h : ∀ name ∈ known, name ∈ known') (what : Text) (s : Stream) :
    Entry.read ⟨vars, known⟩ what s =
        (Entry.read ⟨vars, known'⟩ what s).map (·.filter (·.name ∈ known)) ∧
      (∀ i, entriesAt ⟨vars, known⟩ s.lines i =
        (entriesAt ⟨vars, known'⟩ s.lines i).filter (·.name ∈ known)) ∧
      ∀ front segment line back, Segment.unclosed front = [] →
        (∀ l ∈ segment, LineKind.of l ≠ .closing) → LineKind.of line = .closing →
        (∀ target, targetName? line = some target →
          ∀ name ∈ vars.expand target, name ∉ known) →
        Entry.ofLines ⟨vars, known⟩ (front ++ (segment ++ [line] ++ back)) =
          Entry.ofLines ⟨vars, known⟩ (front ++ back) := by
  refine ⟨?_, Entry.entriesAt_filter_known vars h s.lines, ?_⟩
  · rw [Entry.read, Entry.read]
    cases s.readLines with
    | error fault => rfl
    | ok lines => exact congrArg Except.ok (Entry.ofMarks_filter_known vars h .empty _)
  · intro front segment line back hfront hsegment hline hunknown
    exact Entry.ofLines_drop_unknown hfront hsegment hline hunknown back

/-- A variable with the names of three targets. -/
def threeNames : Variables := .ofList [(['v'], [['b'], ['a'], ['c']])]

/-- A makefile that documents one target by its name, and three at once. -/
def namedAndSpliced : Stream :=
  .ofBytes (Utf8.encode "## @category G\n## one\nb:\n##  two\n$(v):\n".toList)

/-- Where only one target is known, the category and the usage text of another
are gone with it. -/
theorem read_filter_known_spliced :
    (∀ name ∈ Std.TreeSet.ofList [['a']], name ∈ Std.TreeSet.ofList [['a'], ['b']]) ∧
      Entry.read ⟨threeNames, .ofList [['a'], ['b']]⟩ [] namedAndSpliced =
        .ok [⟨['b'], ['G'], "one".toList⟩, ⟨['b'], [], "two".toList⟩, ⟨['a'], [], "two".toList⟩] ∧
      Entry.read ⟨threeNames, .ofList [['a']]⟩ [] namedAndSpliced =
        .ok [⟨['a'], [], "two".toList⟩] ∧
      Entry.ofLines ⟨threeNames, .ofList [['a']]⟩ (namedAndSpliced.lines.take 3 ++
          namedAndSpliced.lines.drop 3) =
        Entry.ofLines ⟨threeNames, .ofList [['a']]⟩ (namedAndSpliced.lines.drop 3) := by
  have hknown : ∀ name ∈ Std.TreeSet.ofList [['a']],
      name ∈ Std.TreeSet.ofList [['a'], ['b']] := by
    intro name hname
    simp only [Std.TreeSet.mem_ofList, List.contains_cons, List.contains_nil, Bool.or_false,
      Bool.or_eq_true] at hname ⊢
    exact .inl hname
  have hall : Entry.read ⟨threeNames, .ofList [['a'], ['b']]⟩ [] namedAndSpliced =
      .ok [⟨['b'], ['G'], "one".toList⟩, ⟨['b'], [], "two".toList⟩,
        ⟨['a'], [], "two".toList⟩] := by decide +kernel
  obtain ⟨hread, -, hdrop⟩ := read_filter_known threeNames hknown [] namedAndSpliced
  refine ⟨hknown, hall, ?_, ?_⟩
  · rw [hread, hall]
    decide +kernel
  · have hlines : namedAndSpliced.lines.take 3 =
        ["## @category G".toList, "## one".toList] ++ ["b:".toList] := by decide +kernel
    rw [hlines]
    refine hdrop [] ["## @category G".toList, "## one".toList] "b:".toList _ rfl (by decide)
      (by decide) ?_
    intro target htarget name hname
    have hb : targetName? "b:".toList = some ['b'] := by decide
    obtain rfl := Option.some.inj (hb.symm.trans htarget)
    have hexpand : threeNames.expand ['b'] = [['b']] := by decide +kernel
    rw [hexpand] at hname
    obtain rfl := List.mem_singleton.mp hname
    decide +kernel

end TargetHelp
