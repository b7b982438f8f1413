import Mathlib.Data.List.DropRight
import TargetHelp.Annotation

/-!
# Segments of a makefile

The closing lines of a makefile cut it into segments. What a closing line
documents is a matter of its own segment: of the lines strictly between the
closing line before it, or the start of the file, and itself.

The reader of annotations knows nothing of segments. It goes through the lines
once and carries a block along. The invariant behind everything here is
`Block.after_eq`: what the block holds behind some lines is what the segment
that is still open says, and nothing else. So the entries of a makefile can be
told closing line by closing line (`read_eq_segments`).
-/

namespace TargetHelp

/-! ## Kinds of lines -/

/-- The kinds of lines, which the beginnings of the lines tell. -/
inductive LineKind where
  /-- names a category -/
  | category
  /-- adds to the usage text -/
  | usage
  /-- is about phony targets -/
  | phony
  /-- ends a segment -/
  | closing
  deriving DecidableEq, Repr

/-- The kind of a line. A line that names a category begins like one of usage
text, so the order of these questions matters. -/
def LineKind.of (line : Text) : LineKind :=
  if Mark.categorySign <+: line then .category
  else if Mark.usageSign <+: line then .usage
  else if Mark.phonySign <+: line then .phony
  else .closing

/-- Taking a beginning off a list succeeds exactly if the list begins so. -/
theorem isPrefixOf?_eq_ite (sign line : Text) :
    sign.isPrefixOf? line = if sign <+: line then some (line.drop sign.length) else none := by
  split
  · next h =>
    obtain ⟨rest, rfl⟩ := h
    rw [List.isPrefixOf?_eq_some_iff_append_eq, List.drop_left]
  · next h =>
    rw [Option.eq_none_iff_forall_ne_some]
    intro rest hrest
    exact h ⟨rest, List.isPrefixOf?_eq_some_iff_append_eq.mp hrest⟩

/-- What a line is to the annotations around it, by its kind. -/
theorem Mark.ofLine_eq (line : Text) :
    Mark.ofLine line =
      match LineKind.of line with
      | .category => .category (Text.trim (line.drop categorySign.length))
      | .usage => .usage (line.drop usageSign.length)
      | .phony => .phony
      | .closing => .closing (targetName? line) := by
  have hphony : phonySign.isPrefixOf line = true ↔ phonySign <+: line :=
    List.isPrefixOf_iff_prefix
  unfold Mark.ofLine LineKind.of
  rw [isPrefixOf?_eq_ite, isPrefixOf?_eq_ite]
  by_cases hc : categorySign <+: line
  · simp only [if_pos hc]
  by_cases hu : usageSign <+: line
  · simp only [if_neg hc, if_pos hu]
  by_cases hp : phonySign <+: line
  · simp only [if_neg hc, if_neg hu, if_pos hp, if_pos (hphony.mpr hp)]
  · simp only [if_neg hc, if_neg hu, if_neg hp, if_neg (fun h => hp (hphony.mp h))]

/-! ## What a segment says -/

namespace Segment

/-- The segment that is still open behind these lines: those behind the last
closing line. -/
def unclosed (lines : List Text) : List Text := lines.rtakeWhile (LineKind.of · ≠ .closing)

/-- The segment above the `i`-th line. -/
def above (lines : List Text) (i : Nat) : List Text := unclosed (lines.take i)

/-- The category that a segment names: what stands behind the sign in the last
line that names one. -/
def category (segment : List Text) : Text :=
  match (segment.filter (LineKind.of · = .category)).getLast? with
  | some line => Text.trim (line.drop Mark.categorySign.length)
  | none => []

/-- The usage lines of a segment, without the sign in front of them. -/
def usage (segment : List Text) : List Text :=
  (segment.filter (LineKind.of · = .usage)).map (·.drop Mark.usageSign.length)

/-- A line that closes nothing joins the segment that is still open. -/
theorem unclosed_concat {line : Text} (h : LineKind.of line ≠ .closing) (lines : List Text) :
    unclosed (lines ++ [line]) = unclosed lines ++ [line] :=
  List.rtakeWhile_concat_pos _ _ _ (decide_eq_true h)

/-- Behind a closing line a new segment begins. -/
theorem unclosed_concat_closing {line : Text} (h : LineKind.of line = .closing)
    (lines : List Text) : unclosed (lines ++ [line]) = [] :=
  List.rtakeWhile_concat_neg _ _ _ (by simp [h])

/-- The category of a segment is that of the last line that names one. -/
theorem category_concat (segment : List Text) (line : Text) :
    category (segment ++ [line]) =
      if LineKind.of line = .category then Text.trim (line.drop Mark.categorySign.length)
      else category segment := by
  unfold category
  by_cases h : LineKind.of line = .category
  · simp [List.filter_append, h]
  · simp [List.filter_append, h]

/-- The usage lines of a segment are those that were there before, and the new
one if it is of that kind. -/
theorem usage_concat (segment : List Text) (line : Text) :
    usage (segment ++ [line]) =
      usage segment ++
        if LineKind.of line = .usage then [line.drop Mark.usageSign.length] else [] := by
  unfold usage
  by_cases h : LineKind.of line = .usage
  · simp [List.filter_append, h]
  · simp [List.filter_append, h]

/-- A segment has usage text exactly if one of its lines is of that kind. -/
theorem usage_eq_nil_iff (segment : List Text) :
    usage segment = [] ↔ ¬ ∃ line ∈ segment, LineKind.of line = .usage := by
  simp [usage]

end Segment

/-! ## The block behind some lines -/

/-- The block that a reader carries along when it has read these lines. -/
def Block.after (lines : List Text) : Block := (lines.map Mark.ofLine).foldl Block.next .empty

theorem Block.after_concat (lines : List Text) (line : Text) :
    Block.after (lines ++ [line]) = (Block.after lines).next (Mark.ofLine line) := by
  rw [Block.after, List.map_append, List.foldl_append]
  rfl

/-- The block behind some lines holds what the segment that is still open says.
Nothing from before the last closing line is left in it. -/
theorem Block.after_eq (lines : List Text) :
    Block.after lines =
      ⟨Segment.category (Segment.unclosed lines), Segment.usage (Segment.unclosed lines)⟩ := by
  induction lines using List.reverseRecOn with
  | nil => rfl
  | append_singleton lines line ih =>
    rw [Block.after_concat, ih, Mark.ofLine_eq]
    cases hkind : LineKind.of line with
    | closing =>
      -- a segment without lines says nothing, like the block that is left
      rw [Segment.unclosed_concat_closing hkind]
      rfl
    | category | usage | phony =>
      -- the line joins the open segment, and the block takes from it what the segment says
      rw [Segment.unclosed_concat (by rw [hkind]; decide), Segment.category_concat,
        Segment.usage_concat, hkind]
      simp [Block.next]

/-- Reading goes on behind some lines with the block that they leave. -/
theorem Entry.ofMarks_append (db : Database) (block : Block) (front back : List Mark) :
    Entry.ofMarks db block (front ++ back) =
      Entry.ofMarks db block front ++ Entry.ofMarks db (front.foldl Block.next block) back := by
  induction front generalizing block with
  | nil => rfl
  | cons mark front ih =>
    rw [List.cons_append, ofMarks, ofMarks, ih, List.append_assoc]
    rfl

/-- Only a line that defines a target documents anything. -/
theorem Entry.ofMarks_eq_nil (db : Database) (block : Block) {marks : List Mark}
    (h : ∀ name, .closing (some name) ∉ marks) : ofMarks db block marks = [] := by
  induction marks generalizing block with
  | nil => rfl
  | cons m marks ih =>
    have hm : block.entries db m = [] := by
      cases m with
      | category | usage | phony => rfl
      | closing target =>
        cases target with
        | none => rfl
        | some name => exact absurd (List.mem_cons_self ..) (h name)
    rw [ofMarks, hm, ih _ fun name hmem => h name (List.mem_cons_of_mem _ hmem), List.nil_append]

/-- The lines behind others are read below the block that those leave. -/
theorem Entry.ofLines_append (db : Database) (front back : List Text) :
    Entry.ofLines db (front ++ back) =
      Entry.ofLines db front ++ Entry.ofMarks db (Block.after front) (back.map Mark.ofLine) := by
  rw [ofLines, List.map_append, ofMarks_append]
  rfl

/-- Where no segment is open, reading starts afresh. -/
theorem Entry.ofLines_append_of_unclosed (db : Database) {front : List Text}
    (h : Segment.unclosed front = []) (back : List Text) :
    Entry.ofLines db (front ++ back) = Entry.ofLines db front ++ Entry.ofLines db back := by
  have hafter : Block.after front = .empty := by
    rw [Block.after_eq, h]
    rfl
  rw [ofLines_append, hafter]
  rfl

/-- Behind a closing line reading starts afresh. -/
theorem Entry.ofLines_append_of_closing (db : Database) {line : Text}
    (h : LineKind.of line = .closing) (front back : List Text) :
    Entry.ofLines db (front ++ [line] ++ back) =
      Entry.ofLines db (front ++ [line]) ++ Entry.ofLines db back :=
  ofLines_append_of_unclosed db (Segment.unclosed_concat_closing h front) back

/-! ## The entries, closing line by closing line -/

/-- What a line below a segment documents. Only a closing line that defines a
target does, and only if there is usage text in the segment: then every name
that the target's name expands to and that the build tool knows, under the
category that the segment names last. -/
def Segment.entries (db : Database) (segment : List Text) (line : Text) : List Entry :=
  match LineKind.of line, targetName? line with
  | .closing, some target =>
    if ∃ above ∈ segment, LineKind.of above = .usage then
      ((db.vars.expand target).filter (db.targets.contains ·)).map fun name =>
        { name := name
          category := Segment.category segment
          usage := Text.unlines (Text.unindent (Segment.usage segment)) }
    else []
  | _, _ => []

/-- What a segment documents is documented by a line that defines a target. -/
theorem Segment.mem_entries {db : Database} {segment : List Text} {line : Text} {e : Entry}
    (h : e ∈ Segment.entries db segment line) :
    ∃ target, targetName? line = some target ∧ e.name ∈ db.vars.expand target ∧
      db.targets.contains e.name = true ∧ e.category = Segment.category segment ∧
      e.usage = Text.unlines (Text.unindent (Segment.usage segment)) := by
  rw [Segment.entries] at h
  split at h
  · next target _ htarget =>
    split at h
    · obtain ⟨name, hname, rfl⟩ := List.mem_map.mp h
      obtain ⟨hexpand, hknown⟩ := List.mem_filter.mp hname
      exact ⟨target, htarget, hexpand, hknown, rfl, rfl⟩
    · cases h
  · cases h

/-- What the `i`-th line of a makefile documents. -/
def entriesAt (db : Database) (lines : List Text) (i : Nat) : List Entry :=
  match lines[i]? with
  | some line => Segment.entries db (Segment.above lines i) line
  | none => []

/-- A line gives to the block above it what it documents below the segment that
is still open. -/
theorem Block.entries_after (db : Database) (lines : List Text) (line : Text) :
    (Block.after lines).entries db (Mark.ofLine line) =
      Segment.entries db (Segment.unclosed lines) line := by
  rw [Block.after_eq, Mark.ofLine_eq, Segment.entries]
  cases LineKind.of line with
  | category | usage | phony => rfl
  | closing =>
    cases targetName? line with
    | none => rfl
    | some target =>
      by_cases husage : ∃ above ∈ Segment.unclosed lines, LineKind.of above = .usage
      · have hne : Segment.usage (Segment.unclosed lines) ≠ [] :=
          fun h => (Segment.usage_eq_nil_iff _).mp h husage
        simp only [Block.entries, Block.document, if_pos husage, List.isEmpty_iff, if_neg hne]
      · have hnil : Segment.usage (Segment.unclosed lines) = [] :=
          (Segment.usage_eq_nil_iff _).mpr husage
        simp only [Block.entries, if_neg husage, hnil, List.isEmpty_nil, if_true]

/-- What a line documents does not depend on the lines below it. -/
theorem entriesAt_concat_of_lt (db : Database) {lines : List Text} (line : Text) {i : Nat}
    (h : i < lines.length) : entriesAt db (lines ++ [line]) i = entriesAt db lines i := by
  unfold entriesAt Segment.above
  rw [List.getElem?_append_left h, List.take_append_of_le_length (Nat.le_of_lt h)]

/-- What the last line documents. -/
theorem entriesAt_concat_length (db : Database) (lines : List Text) (line : Text) :
    entriesAt db (lines ++ [line]) lines.length =
      Segment.entries db (Segment.unclosed lines) line := by
  rw [entriesAt, Segment.above, List.getElem?_concat_length, List.take_left]

/-- The entries of a makefile are what its lines document, in order. -/
theorem Entry.ofLines_eq_flatMap (db : Database) (lines : List Text) :
    Entry.ofLines db lines = (List.range lines.length).flatMap (entriesAt db lines) := by
  induction lines using List.reverseRecOn with
  | nil => rfl
  | append_singleton lines line ih =>
    have hfront : (List.range lines.length).flatMap (entriesAt db (lines ++ [line])) =
        (List.range lines.length).flatMap (entriesAt db lines) :=
      List.flatMap_congr fun i hi => entriesAt_concat_of_lt db line (List.mem_range.mp hi)
    rw [Entry.ofLines_append, List.length_append, List.length_singleton, List.range_succ,
      List.flatMap_append, hfront, ih, List.flatMap_singleton, entriesAt_concat_length,
      ← Block.entries_after]
    exact congrArg _ (List.append_nil _)

/-- **The entries of a makefile, told by its segments.** Whatever bytes a
stream holds, if it does not break then its entries are those of its closing
lines, in the order of the lines, each documented by its own segment. And a
closing line is a wall: what stands below it is read as if nothing stood above. -/
theorem read_eq_segments (db : Database) (what : Text) (data : Bytes) :
    Entry.read db what (.ofBytes data) =
        .ok ((List.range (Stream.ofBytes data).lines.length).flatMap
          (entriesAt db (Stream.ofBytes data).lines)) ∧
      ∀ front line back, LineKind.of line = .closing →
        Entry.ofLines db (front ++ [line] ++ back) =
          Entry.ofLines db (front ++ [line]) ++ Entry.ofLines db back := by
  constructor
  · exact congrArg Except.ok (Entry.ofLines_eq_flatMap db _)
  · intro front line back h
    exact Entry.ofLines_append_of_closing db h front back

end TargetHelp
