import TargetHelp.Proofs.DatabaseGrammar
import TargetHelp.Proofs.DecodedLines
import TargetHelp.Proofs.Indentation
import TargetHelp.Proofs.Pieces
import TargetHelp.Proofs.Segments
import TargetHelp.Proofs.Trimming

/-!
# Documented targets are real

The names that a target's name expands to are put together from the values of
variables, and a value may be any word at all. So nothing about their shape
follows from the makefile. What a documented name looks like follows from the
database: the build tool knows the name, hence a line that it printed defines a
target of that name, and such a line admits only proper names.

Category and usage text come from the makefile alone, and are what trimming
leaves of them. `documented_targets_are_real` puts both together.
-/

namespace TargetHelp

/-! ## What trimming leaves of a segment -/

namespace Text

/-- A block without its indentation does not begin with a space. -/
theorem head?_unlines_unindent (ls : List Text) : (unlines (unindent ls)).head? ≠ some ' ' := by
  cases hls : unindent ls with
  | nil => simp [unlines]
  | cons first rest =>
    have hfirst : first.head? ≠ some ' ' := head?_of_mem_head?_unindent (by rw [hls]; rfl)
    cases first with
    | nil =>
      -- what begins the text then is the end of the first line, if there is a second
      cases rest <;> simp [unlines, List.intercalate]
    | cons c line => cases rest <;> simpa [unlines, List.intercalate] using hfirst

end Text

/-- No line of a stream has a newline in it. -/
theorem Stream.newline_not_mem_line {s : Stream} {line : Text} (h : line ∈ s.lines) :
    '\n' ∉ line := by
  obtain ⟨raw, hraw, rfl⟩ := List.mem_map.mp h
  have hpiece : raw ∈ s.data.splitOn Utf8.newline := by
    rw [rawLines] at hraw
    split at hraw
    · exact hraw
    · exact List.dropLast_subset _ hraw
  apply Utf8.newline_not_mem_decode
  intro hnewline
  have hmem : Utf8.newline ∈ raw := by
    rw [dropReturn] at hnewline
    split at hnewline
    · exact List.dropLast_subset _ hnewline
    · exact hnewline
  exact (mem_piece hpiece hmem).2 rfl

namespace Segment

/-- The category of a segment is trimmed. -/
theorem isTrimmed_category (segment : List Text) : (category segment).IsTrimmed := by
  rw [category]
  split
  · exact Text.isTrimmed_trim _
  · exact Text.isTrimmed_nil

/-- What the category of a segment holds, one of its lines holds. -/
theorem exists_mem_of_mem_category {segment : List Text} {c : Char} (h : c ∈ category segment) :
    ∃ line ∈ segment, c ∈ line := by
  rw [category] at h
  split at h
  · next line hlast =>
    have hline : line ∈ segment := (List.mem_filter.mp (List.mem_of_getLast? hlast)).1
    exact ⟨line, hline, List.mem_of_mem_drop (Text.mem_of_mem_trim h)⟩
  · cases h

end Segment

/-! ## The entries of a makefile -/

/-- An entry of a makefile is real, by the lines that the build tool printed and
by those of the makefile. -/
structure Entry.IsReal (db : Database) (printed makefile : List Text) (e : Entry) : Prop where
  /-- a line that the build tool printed defines a target of this name -/
  known : ∃ line ∈ printed, DefinesTarget line e.name
  /-- a line of the makefile that defines a target documents the entry, and the
  name of that target expands to its name -/
  source : ∃ i line target, makefile[i]? = some line ∧ DefinesTarget line target ∧
    e ∈ entriesAt db makefile i ∧ e.name ∈ db.vars.expand target
  /-- the category is a single line -/
  category_line : '\n' ∉ e.category
  /-- the category has no blanks around it -/
  category_trimmed : e.category.IsTrimmed
  /-- the usage text is not indented -/
  usage_head : e.usage.head? ≠ some ' '

/-- Whatever was printed and whatever a makefile holds, what it documents is
real. -/
theorem Entry.isReal_of_mem_ofLines {printed makefile : List Text}
    (hlines : ∀ line ∈ makefile, '\n' ∉ line) {e : Entry}
    (h : e ∈ ofLines (Database.ofLines printed) makefile) :
    e.IsReal (Database.ofLines printed) printed makefile := by
  rw [ofLines_eq_flatMap] at h
  obtain ⟨i, -, hi⟩ := List.mem_flatMap.mp h
  have hentries := hi
  rw [entriesAt] at hentries
  split at hentries
  · next line hline =>
    obtain ⟨target, htarget, hexpand, hknown, hcategory, husage⟩ := Segment.mem_entries hentries
    refine ⟨Database.contains_ofLines.mp hknown,
      ⟨i, line, target, hline, targetName?_eq_some_iff.mp htarget, hi, hexpand⟩, ?_, ?_, ?_⟩
    · intro hnewline
      rw [hcategory] at hnewline
      obtain ⟨above, habove, hmem⟩ := Segment.exists_mem_of_mem_category hnewline
      -- the lines of a segment are lines of the makefile
      have hsegment : above ∈ makefile :=
        List.mem_of_mem_take ((List.rtakeWhile_suffix _ _).subset habove)
      exact hlines above hsegment hmem
    · rw [hcategory]
      exact Segment.isTrimmed_category _
    · rw [husage]
      exact Text.head?_unlines_unindent _
  · cases hentries

/-- **Documented targets are real.** Whatever bytes the build tool printed, and
whatever bytes a makefile holds, both are read. Every entry then has a name that
begins a line of what was printed, with a colon behind it, and that is proper;
its category is one trimmed line, its usage text is not indented, and it comes
from a line of the makefile that defines a target whose name expands to the
entry's. -/
theorem documented_targets_are_real (what path : Text) (printed makefile : Bytes) :
    ∃ db entries, Database.read what (.ofBytes printed) = .ok db ∧
      Entry.read db path (.ofBytes makefile) = .ok entries ∧
      ∀ e ∈ entries,
        e.IsReal db (Stream.ofBytes printed).lines (Stream.ofBytes makefile).lines := by
  refine ⟨_, _, rfl, rfl, fun e he => ?_⟩
  exact Entry.isReal_of_mem_ofLines (fun line hline => Stream.newline_not_mem_line hline) he

/-- A database with a variable whose values are words of all kinds, and targets
of which only some have proper names. -/
def printedWords : Bytes :=
  Utf8.encode "V := .d 'a b' e:f '$(V)'\nx.d:\nxa b:\nxe:f:\n.d:\n".toList

/-- A makefile that documents what the values are spliced into. -/
def splicedNames : Bytes := Utf8.encode "## @category  A \n##   one\nx$(V): y\n## two\n$(V):\n".toList

/-- Of the names that are spliced together, one is the name of a target. -/
theorem documented_targets_are_real_splicedNames :
    ∃ db, Entry.read db [] (.ofBytes splicedNames) = .ok [⟨"x.d".toList, ['A'], "one".toList⟩] ∧
      Entry.IsReal db (Stream.ofBytes printedWords).lines (Stream.ofBytes splicedNames).lines
        ⟨"x.d".toList, ['A'], "one".toList⟩ := by
  obtain ⟨db, entries, hdb, hentries, hreal⟩ :=
    documented_targets_are_real [] [] printedWords splicedNames
  obtain rfl : Database.ofLines (Stream.ofBytes printedWords).lines = db := Except.ok.inj hdb
  have hread : Entry.read (Database.ofLines (Stream.ofBytes printedWords).lines) []
      (.ofBytes splicedNames) = .ok [⟨"x.d".toList, ['A'], "one".toList⟩] := by
    decide +kernel
  rw [hread] at hentries
  obtain rfl := Except.ok.inj hentries
  exact ⟨_, hread, hreal _ (List.mem_singleton_self _)⟩

end TargetHelp
