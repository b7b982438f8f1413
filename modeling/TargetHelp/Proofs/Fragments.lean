import Mathlib.Data.List.Forall2
import TargetHelp.Proofs.Segments
import TargetHelp.Proofs.WrittenLines

/-!
# Makefiles in fragments

A makefile may be cut behind a line that ends a block, and its fragments read
one by one: what they document, put together, is what the whole documents
(`read_append_of_closed`).

The cut goes through bytes, so two things have to be seen. Lines are cut and
decoded one by one, hence none reaches across a newline that ends a fragment
(`ClosedFragment.lines_append`). And the block that is carried along is empty
behind a closing line, whatever stood above it
(`Entry.ofLines_append_of_closing`).
-/

namespace TargetHelp

open Utf8

/-- A line closes what stands above it exactly if it begins neither like usage
text nor like a line about phony targets. -/
theorem LineKind.of_eq_closing_iff {line : Text} :
    LineKind.of line = .closing ↔ ¬ Mark.usageSign <+: line ∧ ¬ Mark.phonySign <+: line := by
  have hcategory : Mark.usageSign <+: Mark.categorySign := by decide
  rw [LineKind.of]
  split
  · next h => simp [hcategory.trans h]
  · split
    · next h => simp [h]
    · split
      · next h => simp [h]
      · next husage hphony => simp [husage, hphony]

/-- A makefile may be cut behind these bytes: there are none, or they end in a
newline, and the last line begins neither like usage text nor like a line about
phony targets. -/
def ClosedFragment (a : Bytes) : Prop :=
  a = [] ∨ a.getLast? = some newline ∧
    ∃ line, (Stream.ofBytes a).lines.getLast? = some line ∧
      ¬ Mark.usageSign <+: line ∧ ¬ Mark.phonySign <+: line

namespace ClosedFragment

variable {a : Bytes}

/-- No line reaches across the end of a closed fragment. -/
theorem lines_append (ha : ClosedFragment a) (b : Bytes) :
    (Stream.ofBytes (a ++ b)).lines = (Stream.ofBytes a).lines ++ (Stream.ofBytes b).lines := by
  obtain rfl | ⟨hnewline, -⟩ := ha
  · rfl
  · obtain ⟨front, rfl⟩ := List.getLast?_eq_some_iff.mp hnewline
    have hrest : (Stream.ofBytes []).rawLines = [] := rfl
    rw [List.append_assoc, List.singleton_append]
    simp only [Stream.lines, Stream.rawLines_append_newline, hrest, List.append_nil,
      List.map_append]

/-- Behind a closed fragment reading starts afresh. -/
theorem ofLines_append (ha : ClosedFragment a) (db : Database) (b : Bytes) :
    Entry.ofLines db (Stream.ofBytes (a ++ b)).lines =
      Entry.ofLines db (Stream.ofBytes a).lines ++ Entry.ofLines db (Stream.ofBytes b).lines := by
  rw [ha.lines_append]
  obtain rfl | ⟨-, line, hlast, hline⟩ := ha
  · rfl
  · obtain ⟨front, hlines⟩ := List.getLast?_eq_some_iff.mp hlast
    rw [hlines]
    exact Entry.ofLines_append_of_closing db (LineKind.of_eq_closing_iff.mpr hline) front _

end ClosedFragment

/-- Fragments document one after the other what they document alone. -/
theorem Entry.ofLines_flatten_append (db : Database) {fragments : List Bytes}
    (h : ∀ a ∈ fragments, ClosedFragment a) (b : Bytes) :
    ofLines db (Stream.ofBytes (fragments.flatten ++ b)).lines =
      (fragments.map fun a => ofLines db (Stream.ofBytes a).lines).flatten ++
        ofLines db (Stream.ofBytes b).lines := by
  induction fragments with
  | nil => rfl
  | cons a fragments ih =>
    have ha : ClosedFragment a := h a (List.mem_cons_self ..)
    have hrest := ih fun a' ha' => h a' (List.mem_cons_of_mem _ ha')
    rw [List.flatten_cons, List.append_assoc, ha.ofLines_append, hrest, List.map_cons,
      List.flatten_cons, List.append_assoc]

/-- **Fragments are read one by one.** Bytes behind a closed fragment are read as
if they stood alone: both are read, and together they document what each
documents, in order. A stream that breaks off is a failure, whatever the
fragment in front documents. And any number of closed fragments may be put
together, or be cut from a makefile. -/
theorem read_append_of_closed (db : Database) (what : Text) {a : Bytes} (ha : ClosedFragment a)
    (b : Bytes) (fault : Fault) :
    (∃ above below, Entry.read db what (.ofBytes a) = .ok above ∧
        Entry.read db what (.ofBytes b) = .ok below ∧
        Entry.read db what (.ofBytes (a ++ b)) = .ok (above ++ below)) ∧
      Entry.read db what (.broken (a ++ b) fault) = .error (.read what fault) ∧
      ∀ fragments, (∀ f ∈ fragments, ClosedFragment f) →
        ∃ found below,
          List.Forall₂ (fun f entries => Entry.read db what (.ofBytes f) = .ok entries)
            fragments found ∧
          Entry.read db what (.ofBytes b) = .ok below ∧
          Entry.read db what (.ofBytes (fragments.flatten ++ b)) = .ok (found.flatten ++ below) := by
  refine ⟨⟨_, _, rfl, rfl, congrArg Except.ok (ha.ofLines_append db b)⟩, rfl, ?_⟩
  intro fragments h
  refine ⟨fragments.map fun f => Entry.ofLines db (Stream.ofBytes f).lines, _, ?_, rfl,
    congrArg Except.ok (Entry.ofLines_flatten_append db h b)⟩
  exact List.forall₂_map_right_iff.mpr (List.forall₂_same.mpr fun _ _ => rfl)

/-- A database with two targets. -/
def twoTargets : Database := .ofLines ["a:".toList, "b:".toList]

/-- A fragment that ends in a line that defines a target, and has a character cut
short at the end of a line above. -/
def cutShort : Bytes :=
  encode "## @category G\n##   one ".toList ++ [0xE2, 0x82] ++ encode "\na: b\r\n".toList

/-- The category of a fragment does not reach the next, nor does a character that
is cut short. -/
theorem read_append_of_closed_cutShort :
    ClosedFragment cutShort ∧
      Entry.read twoTargets [] (.ofBytes (cutShort ++ encode "## two\nb:".toList)) =
        .ok [⟨['a'], ['G'], "one \uFFFD".toList⟩, ⟨['b'], [], "two".toList⟩] ∧
      Entry.read twoTargets [] (.broken (cutShort ++ encode "## two\nb:".toList) .isADirectory) =
        .error (.read [] .isADirectory) ∧
      Entry.read twoTargets []
          (.ofBytes ([cutShort, cutShort].flatten ++ encode "## two\nb:".toList)) =
        .ok [⟨['a'], ['G'], "one \uFFFD".toList⟩, ⟨['a'], ['G'], "one \uFFFD".toList⟩,
          ⟨['b'], [], "two".toList⟩] := by
  have hclosed : ClosedFragment cutShort :=
    .inr ⟨by decide +kernel, "a: b".toList, by decide +kernel, by decide, by decide⟩
  have hfront : Entry.read twoTargets [] (.ofBytes cutShort) =
      .ok [⟨['a'], ['G'], "one \uFFFD".toList⟩] := by decide +kernel
  have hback : Entry.read twoTargets [] (.ofBytes (encode "## two\nb:".toList)) =
      .ok [⟨['b'], [], "two".toList⟩] := by decide +kernel
  obtain ⟨⟨above, below, habove, hbelow, hboth⟩, hbroken, hfragments⟩ :=
    read_append_of_closed twoTargets [] hclosed (encode "## two\nb:".toList) .isADirectory
  obtain rfl := Except.ok.inj (habove.symm.trans hfront)
  obtain rfl := Except.ok.inj (hbelow.symm.trans hback)
  obtain ⟨found, below, hfound, hbelow', hall⟩ :=
    hfragments [cutShort, cutShort] (by simpa using hclosed)
  obtain rfl := Except.ok.inj (hbelow'.symm.trans hback)
  obtain ⟨first, _, hfirst, hrest, rfl⟩ := List.forall₂_cons_left_iff.mp hfound
  obtain ⟨second, _, hsecond, hnil, rfl⟩ := List.forall₂_cons_left_iff.mp hrest
  obtain rfl := Except.ok.inj (hfirst.symm.trans hfront)
  obtain rfl := Except.ok.inj (hsecond.symm.trans hfront)
  obtain rfl := List.forall₂_nil_left_iff.mp hnil
  exact ⟨hclosed, hboth, hbroken, hall⟩

/-- Behind usage text a makefile may not be cut. -/
example :
    Entry.read twoTargets [] (.ofBytes (encode "## x\na:\n".toList)) = .ok [⟨['a'], [], ['x']⟩] ∧
      Entry.read twoTargets [] (.ofBytes (encode "a:\n".toList)) = .ok [] := by
  decide +kernel

end TargetHelp
