import Mathlib.Data.List.Forall2
import TargetHelp.Proofs.Encoding
import TargetHelp.Stream

/-!
# Lines as they are written, and as they are read

A stream that ends yields its lines one by one: what stands before its first
newline byte is a line, and the rest is a stream again (`lines_append_newline`).

An author may end every line with a newline or with a carriage return and a
newline, as he likes, and may leave the end of the last line out (`Written`).
What is read then are the lines that he wrote, in order and none besides
(`lines_of_written`). Only a carriage return at the end of a line may be lost,
since a reader takes it for a part of the line's end.
-/

namespace TargetHelp

open Utf8

/-! ## The lines of a stream, one by one -/

namespace Stream

/-- A newline ends a line wherever it stands. -/
theorem rawLines_append_newline (a b : Bytes) :
    (ofBytes (a ++ newline :: b)).rawLines = a.splitOn newline ++ (ofBytes b).rawLines := by
  have hne : b.splitOn newline ≠ [] := List.splitOn_ne_nil newline b
  simp only [rawLines, ofBytes, List.splitOn_append_cons_self, List.getLast?_append_of_ne_nil _ hne,
    List.dropLast_append_of_ne_nil hne]
  exact (apply_ite (a.splitOn newline ++ ·) _ _ _).symm

/-- The bytes in front of the first newline are a line. -/
theorem lines_append_newline {a : Bytes} (h : newline ∉ a) (b : Bytes) :
    (ofBytes (a ++ newline :: b)).lines = decode (dropReturn a) :: (ofBytes b).lines := by
  rw [lines, rawLines_append_newline, List.splitOn_eq_singleton h]
  rfl

/-- Bytes without a newline are one line, if there are any. -/
theorem lines_of_not_mem {a : Bytes} (h : newline ∉ a) (hne : a ≠ []) :
    (ofBytes a).lines = [decode (dropReturn a)] := by
  have hraw : (ofBytes a).rawLines = [a] := by
    simp [rawLines, ofBytes, List.splitOn_eq_singleton h, hne]
  rw [lines, hraw]
  rfl

/-- A carriage return at the end of a line is dropped. -/
theorem dropReturn_concat (a : Bytes) : dropReturn (a ++ [13]) = a := by
  simp [dropReturn]

/-- Nothing else is dropped. -/
theorem dropReturn_of_ne {a : Bytes} (h : a.getLast? ≠ some 13) : dropReturn a = a := if_neg h

end Stream

/-! ## One line -/

/-- A line as it was written, and what may be read of it: all of it, or all but
a carriage return at its end. -/
def ReadAs (written read : Text) : Prop := read = written ∨ read ++ ['\r'] = written

/-- Of the bytes of a line, no more than a carriage return is lost. -/
theorem readAs_decode_dropReturn (l : Text) :
    ReadAs l (decode (Stream.dropReturn (encode l))) := by
  rcases List.eq_nil_or_concat l with rfl | ⟨l, c, rfl⟩
  · exact Or.inl rfl
  rw [List.concat_eq_append, encode_append]
  by_cases hc : c = '\r'
  · subst hc
    right
    rw [show encode ['\r'] = [13] from rfl, Stream.dropReturn_concat, decode_encode]
  · left
    -- no other character has the byte of a carriage return in it
    have hlast : (encode l ++ encode [c]).getLast? ≠ some 13 := by
      intro h
      have hmem : UInt8.ofNat '\r'.val.toNat ∈ String.utf8EncodeChar c := by
        rw [encode_cons, encode_nil, List.append_nil, List.getLast?_append_of_ne_nil _
          String.utf8EncodeChar_ne_nil] at h
        exact List.mem_of_getLast? h
      exact hc ((mem_encodeChar_iff (by decide)).mp hmem)
    rw [Stream.dropReturn_of_ne hlast, ← encode_append, decode_encode]

/-- A line that does not end in a carriage return is read as it was written. -/
theorem ReadAs.eq {line read : Text} (h : ReadAs line read) (hlast : line.getLast? ≠ some '\r') :
    read = line := by
  rcases h with h | h
  · exact h
  · rw [← h] at hlast
    exact absurd List.getLast?_concat hlast

/-- A carriage return that is lost was not in front of the end. -/
theorem ReadAs.of_append_cons {front back read : Text} {c : Char} (hc : c ≠ '\r')
    (h : ReadAs (front ++ c :: back) read) : ∃ back', read = front ++ c :: back' := by
  rcases h with h | h
  · exact ⟨back, h⟩
  · rcases List.eq_nil_or_concat back with rfl | ⟨back, d, rfl⟩
    · have heq := (List.append_inj' h rfl).2
      exact absurd (List.cons.inj heq).1.symm hc
    · rw [List.concat_eq_append, ← List.cons_append, ← List.append_assoc] at h
      exact ⟨back, (List.append_inj' h rfl).1⟩

/-- What is made of each line however it is read is made of the lines that are
read. -/
theorem map_eq_of_readAs {β : Type*} {f : Text → β} {ls read : List Text} {bs : List β}
    (h : List.Forall₂ (fun l b => ∀ r, ReadAs l r → f r = b) ls bs)
    (hread : List.Forall₂ ReadAs ls read) : read.map f = bs := by
  induction h generalizing read with
  | nil =>
    cases hread
    rfl
  | cons hline _ ih =>
    cases hread with
    | cons hr hread => rw [List.map_cons, hline _ hr, ih hread]

/-! ## Lines with their ends -/

/-- What may end a line. -/
inductive LineEnd where
  /-- a newline -/
  | newline
  /-- a carriage return and a newline -/
  | returnNewline
  deriving DecidableEq, Repr

/-- The characters that end a line. -/
def LineEnd.text : LineEnd → Text
  | .newline => ['\n']
  | .returnNewline => ['\r', '\n']

/-- A text in which these lines are written, each with an end of its own. The
last line may go without one, unless it is empty: nothing would tell of it. -/
inductive Written : List Text → Text → Prop where
  /-- no line is written as nothing -/
  | nil : Written [] []
  /-- a last line without an end -/
  | last {l : Text} (h : l ≠ []) : Written [l] l
  /-- a line, its end, and the lines behind it -/
  | cons (l : Text) (e : LineEnd) {ls : List Text} {t : Text} (h : Written ls t) :
      Written (l :: ls) (l ++ e.text ++ t)

/-- The lines of a written text are read in order, and none besides. -/
theorem lines_of_written {ls : List Text} {t : Text} (h : Written ls t)
    (hn : ∀ l ∈ ls, '\n' ∉ l) : List.Forall₂ ReadAs ls (Stream.ofBytes (encode t)).lines := by
  have hbytes : ∀ {l : Text}, '\n' ∉ l → newline ∉ encode l :=
    fun hl hmem => hl ((mem_encode_iff (by decide)).mp hmem)
  induction h with
  | nil => exact List.Forall₂.nil
  | @last l hne =>
    have hl : newline ∉ encode l := hbytes (hn l (List.mem_singleton_self l))
    have hne' : encode l ≠ [] := by
      obtain ⟨c, rest, rfl⟩ := List.exists_cons_of_ne_nil hne
      exact List.append_ne_nil_of_left_ne_nil String.utf8EncodeChar_ne_nil _
    rw [Stream.lines_of_not_mem hl hne']
    exact List.Forall₂.cons (readAs_decode_dropReturn l) List.Forall₂.nil
  | @cons l e ls t _ ih =>
    have hl : newline ∉ encode l := hbytes (hn l (List.mem_cons_self ..))
    have ih := ih fun l' hl' => hn l' (List.mem_cons_of_mem _ hl')
    cases e with
    | newline =>
      have hsplit : encode (l ++ LineEnd.newline.text ++ t) = encode l ++ newline :: encode t := by
        rw [encode_append, encode_append, List.append_assoc]
        rfl
      rw [hsplit, Stream.lines_append_newline hl]
      exact List.Forall₂.cons (readAs_decode_dropReturn l) ih
    | returnNewline =>
      -- this return belongs to the end, so one at the end of the line itself is kept
      have hsplit : encode (l ++ LineEnd.returnNewline.text ++ t) =
          (encode l ++ [13]) ++ newline :: encode t := by
        rw [encode_append, encode_append, List.append_assoc, List.append_assoc]
        rfl
      have hl' : newline ∉ encode l ++ [13] := by
        rw [List.mem_append, List.mem_singleton]
        rintro (hmem | hmem)
        · exact hl hmem
        · exact absurd hmem (by decide)
      rw [hsplit, Stream.lines_append_newline hl', Stream.dropReturn_concat, decode_encode]
      exact List.Forall₂.cons (Or.inl rfl) ih

end TargetHelp
