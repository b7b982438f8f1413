import Mathlib.Algebra.Group.Nat.Defs
import Mathlib.Data.List.DropRight
import TargetHelp.Proofs.WrittenLines

/-!
# Lines of bytes and lines of text

A stream is cut into lines while it is still bytes, and every line is decoded
by itself. Nothing is lost by that: the same lines come out if all bytes are
decoded first and the text is cut then (`readLines_eq_fileLines`), however
broken the bytes are.

Two facts about the decoder are behind it. A byte of ASCII is a character
wherever it stands (`decodeFrom_ascii`), and no other bytes make that character
(`mem_decodeFrom`): whatever the decoder is inside of, the number under way is
that of a character beyond ASCII (`State.Sound`).

A stream that breaks off yields the lines up to its last newline.
-/

namespace TargetHelp

namespace Utf8

/-! ## Where characters of ASCII come from -/

/-- Every number that the character under way can still turn out to have is
that of a character beyond ASCII. -/
def State.Sound : State → Prop
  | .ground => True
  | .inside value low high more =>
    ∀ n, (value * 64 + (low.toNat - 0x80)) * 64 ^ more ≤ n →
      n < (value * 64 + (high.toNat - 0x80) + 1) * 64 ^ more → 0x80 ≤ n ∧ n.isValidChar

theorem toNat_ofNat_of_isValidChar {n : Nat} (h : n.isValidChar) : (Char.ofNat n).toNat = n := by
  rw [Char.ofNat, dif_pos h]
  rfl

theorem sound_start (b : UInt8) : (start b).2.Sound := by
  unfold start
  repeat' split
  all_goals simp only [State.Sound]
  -- the bounds on the second byte are what keeps the numbers in range
  all_goals
    intro n hlow hhigh
    simp only [UInt8.lt_iff_toNat_lt, UInt8.le_iff_toNat_le, UInt8.toNat_ofNat, Nat.isValidChar,
      ← UInt8.toNat_inj] at *
    omega

theorem sound_step {s : State} (hs : s.Sound) (b : UInt8) : (step s b).2.Sound := by
  cases s with
  | ground => exact sound_start b
  | inside value low high more =>
    simp only [step]
    split
    · next hb =>
      rw [UInt8.le_iff_toNat_le, UInt8.le_iff_toNat_le] at hb
      cases more with
      | zero => trivial
      | succ more =>
        have hlow80 : (0x80 : UInt8).toNat - 0x80 = 0 := rfl
        have hhighBF : (0xBF : UInt8).toNat - 0x80 = 63 := rfl
        intro n hlow hhigh
        rw [hlow80] at hlow
        rw [hhighBF] at hhigh
        -- six bits of the number are known now, so fewer numbers are left than before
        refine hs n (Nat.le_trans ?_ hlow) (Nat.lt_of_lt_of_le hhigh ?_)
        · rw [Nat.pow_succ', ← Nat.mul_assoc]
          exact Nat.mul_le_mul_right _ (by omega)
        · rw [Nat.pow_succ', ← Nat.mul_assoc]
          exact Nat.mul_le_mul_right _ (by omega)
    · exact sound_start b

/-- A byte between two characters completes the character of ASCII that it is,
or the replacement character, or nothing. -/
theorem mem_start {b : UInt8} {c : Char} (h : c ∈ (start b).1) :
    c.toNat = b.toNat ∨ 0x80 ≤ c.toNat := by
  by_cases hb : b < 0x80
  · left
    rw [start, if_pos hb, List.mem_singleton] at h
    rw [UInt8.lt_iff_toNat_lt] at hb
    rw [h, toNat_ofNat_of_isValidChar (Or.inl (Nat.lt_trans hb (by decide)))]
  · right
    have hstart : (start b).1 = [] ∨ (start b).1 = [replacement] := by
      rw [start, if_neg hb]
      repeat' split
      all_goals simp
    rcases hstart with hstart | hstart
    · rw [hstart] at h
      cases h
    · rw [hstart, List.mem_singleton] at h
      rw [h]
      decide

/-- The only character of ASCII that a byte completes is the byte itself. -/
theorem mem_step {s : State} (hs : s.Sound) {b : UInt8} {c : Char} (h : c ∈ (step s b).1) :
    c.toNat = b.toNat ∨ 0x80 ≤ c.toNat := by
  cases s with
  | ground => exact mem_start h
  | inside value low high more =>
    simp only [step] at h
    split at h
    · next hb =>
      rw [UInt8.le_iff_toNat_le, UInt8.le_iff_toNat_le] at hb
      cases more with
      | zero =>
        right
        obtain ⟨hle, hvalid⟩ := hs (value * 64 + (b.toNat - 0x80)) (by omega) (by omega)
        rw [List.mem_singleton.mp h, toNat_ofNat_of_isValidChar hvalid]
        exact hle
      | succ more => cases h
    · rcases List.mem_cons.mp h with rfl | h
      · right
        decide
      · exact mem_start h

/-- A byte that leaves the decoder between two characters completes one. -/
theorem step_ne_nil {s : State} {b : UInt8} (h : (step s b).2 = .ground) : (step s b).1 ≠ [] := by
  have hstart : (start b).2 = .ground → (start b).1 ≠ [] := by
    unfold start
    repeat' split
    all_goals simp
  cases s with
  | ground => exact hstart h
  | inside value low high more =>
    simp only [step] at h ⊢
    split
    · next hb =>
      rw [if_pos hb] at h
      cases more with
      | zero => simp
      | succ more => cases h
    · simp

/-- A character of ASCII comes from its own byte. -/
theorem mem_decodeFrom {s : State} (hs : s.Sound) {bs : Bytes} {c : Char}
    (h : c ∈ decodeFrom s bs) : (∃ b ∈ bs, c.toNat = b.toNat) ∨ 0x80 ≤ c.toNat := by
  induction bs generalizing s with
  | nil =>
    cases s with
    | ground => cases h
    | inside =>
      right
      rw [List.mem_singleton.mp h]
      decide
  | cons b bs ih =>
    rw [decodeFrom_cons, List.mem_append] at h
    rcases h with h | h
    · exact (mem_step hs h).imp_left fun heq => ⟨b, List.mem_cons_self .., heq⟩
    · exact (ih (sound_step hs b) h).imp_left fun ⟨x, hx, heq⟩ =>
        ⟨x, List.mem_cons_of_mem _ hx, heq⟩

/-- The last character comes from the last byte, if it is one of ASCII. -/
theorem exists_decodeFrom_concat {s : State} (hs : s.Sound) (bs : Bytes) (b : UInt8) :
    ∃ t c, decodeFrom s (bs ++ [b]) = t ++ [c] ∧ (c.toNat = b.toNat ∨ 0x80 ≤ c.toNat) := by
  induction bs generalizing s with
  | nil =>
    rw [List.nil_append, decodeFrom_cons]
    cases hnext : (step s b).2 with
    | inside => exact ⟨_, replacement, rfl, .inr (by decide)⟩
    | ground =>
      obtain ⟨t, c, hstep⟩ := (List.eq_nil_or_concat _).resolve_left (step_ne_nil hnext)
      refine ⟨t, c, by rw [hstep, List.concat_eq_append]; exact List.append_nil _, mem_step hs ?_⟩
      rw [hstep]
      simp
  | cons x bs ih =>
    obtain ⟨t, c, h, hc⟩ := ih (sound_step hs x)
    refine ⟨(step s x).1 ++ t, c, ?_, hc⟩
    rw [List.cons_append, decodeFrom_cons, h, List.append_assoc]

/-- Bytes are text, if there are any. -/
theorem decode_eq_nil_iff {bs : Bytes} : decode bs = [] ↔ bs = [] := by
  refine ⟨fun h => ?_, ?_⟩
  · rcases List.eq_nil_or_concat bs with rfl | ⟨bs, b, rfl⟩
    · rfl
    · obtain ⟨t, c, hdecode, -⟩ := exists_decodeFrom_concat (s := .ground) trivial bs b
      rw [List.concat_eq_append, decode, hdecode] at h
      exact absurd h (List.append_ne_nil_of_right_ne_nil t (List.cons_ne_nil c []))
  · rintro rfl
    rfl

/-- Bytes without a newline byte are text without a newline. -/
theorem newline_not_mem_decode {bs : Bytes} (h : newline ∉ bs) : '\n' ∉ decode bs := by
  intro hmem
  rcases mem_decodeFrom (s := .ground) trivial hmem with ⟨b, hb, heq⟩ | hle
  · have hnewline : b = newline := UInt8.toNat_inj.mp heq.symm
    exact h (hnewline ▸ hb)
  · exact absurd hle (by decide)

/-- Cutting at newlines and decoding may change places. -/
theorem splitOn_decode (bs : Bytes) :
    (decode bs).splitOn '\n' = (bs.splitOn newline).map decode := by
  -- on the length, since the cut goes on behind a whole line
  induction hn : bs.length using Nat.strongRecOn generalizing bs with
  | ind n ih =>
    by_cases h : newline ∈ bs
    · obtain ⟨a, b, rfl, ha⟩ := List.eq_append_cons_of_mem h
      have hlt : b.length < n := by
        rw [← hn, List.length_append, List.length_cons]
        omega
      rw [decode_newline, List.splitOn_append_cons_self_of_not_mem ha,
        List.splitOn_append_cons_self_of_not_mem (newline_not_mem_decode ha), ih _ hlt b rfl,
        List.map_cons]
    · rw [List.splitOn_eq_singleton h, List.splitOn_eq_singleton (newline_not_mem_decode h),
        List.map_singleton]

end Utf8

/-! ## The lines of a file as text -/

namespace Text

/-- A text without a carriage return at its end. -/
def dropReturn (t : Text) : Text := if t.getLast? = some '\r' then t.dropLast else t

/-- The lines of the text of a whole file: the pieces between its newlines, but
no empty one at the end, and each without a carriage return at its end. -/
def fileLines (t : Text) : List Text :=
  (if (lines t).getLast? = some [] then (lines t).dropLast else lines t).map dropReturn

end Text

open Utf8

/-- Dropping a carriage return and decoding may change places. -/
theorem decode_dropReturn (bs : Bytes) :
    decode (Stream.dropReturn bs) = Text.dropReturn (decode bs) := by
  by_cases h : bs.getLast? = some 13
  · obtain ⟨bs, rfl⟩ := List.getLast?_eq_some_iff.mp h
    have hdecode : decode (bs ++ [13]) = decode bs ++ ['\r'] :=
      decodeFrom_ascii (s := .ground) trivial (by decide) bs []
    rw [Stream.dropReturn_concat, hdecode, Text.dropReturn, if_pos List.getLast?_concat,
      List.dropLast_concat]
  · have hlast : (decode bs).getLast? ≠ some '\r' := by
      rcases List.eq_nil_or_concat bs with rfl | ⟨bs, b, rfl⟩
      · simp [decode, decodeFrom]
      · rw [List.concat_eq_append] at h ⊢
        obtain ⟨t, c, hdecode, hc⟩ := exists_decodeFrom_concat (s := .ground) trivial bs b
        rw [decode, hdecode, List.getLast?_concat]
        rw [List.getLast?_concat] at h
        rintro ⟨⟩
        rcases hc with hc | hc
        · exact h (congrArg some (UInt8.toNat_inj.mp hc.symm))
        · exact absurd hc (by decide)
    rw [Stream.dropReturn_of_ne h, Text.dropReturn, if_neg hlast]

/-- The lines of a stream that ends are those of its text. -/
theorem lines_eq_fileLines (data : Bytes) :
    (Stream.ofBytes data).lines = Text.fileLines (decode data) := by
  have hlast : (Text.lines (decode data)).getLast? = some [] ↔
      (data.splitOn newline).getLast? = some [] := by
    rw [Text.lines, splitOn_decode, List.getLast?_map, Option.map_eq_some_iff]
    refine ⟨?_, fun h => ⟨[], h, rfl⟩⟩
    rintro ⟨piece, hpiece, hnil⟩
    rw [hpiece, decode_eq_nil_iff.mp hnil]
  have hlines : Text.lines (decode data) = (data.splitOn newline).map decode := splitOn_decode data
  have hdecode : ∀ pieces : List Bytes,
      pieces.map (fun line => decode (Stream.dropReturn line)) =
        (pieces.map decode).map Text.dropReturn := by
    intro pieces
    rw [List.map_map]
    exact List.map_congr_left fun line _ => decode_dropReturn line
  rw [Stream.lines, hdecode, Text.fileLines]
  by_cases h : (data.splitOn newline).getLast? = some []
  · rw [if_pos (hlast.mpr h), hlines, Stream.rawLines, if_neg (by simp [Stream.ofBytes, h]),
      List.map_dropLast]
    rfl
  · rw [if_neg (fun hnil => h (hlast.mp hnil)), hlines, Stream.rawLines,
      if_pos (by simp [Stream.ofBytes, h])]
    rfl

/-! ## Streams that break off -/

/-- Some bytes up to their last newline: the longest beginning that ends in a
newline, or nothing if there is none. -/
structure UpToLastNewline (front data : Bytes) : Prop where
  /-- it is a beginning of the bytes -/
  beginning : front <+: data
  /-- it ends in a newline, if it is anything -/
  ending : front = [] ∨ front.getLast? = some newline
  /-- no beginning that ends in a newline is longer -/
  longest : ∀ other, other <+: data → other.getLast? = some newline →
    other.length ≤ front.length

/-- What stands behind the last newline is what has none. -/
theorem upToLastNewline_of_append {front back : Bytes} (hback : newline ∉ back)
    (hfront : front = [] ∨ front.getLast? = some newline) :
    UpToLastNewline front (front ++ back) := by
  refine ⟨List.prefix_append .., hfront, fun other hother hlast => ?_⟩
  by_contra hlt
  obtain ⟨more, rfl⟩ := List.prefix_of_prefix_length_le (List.prefix_append front back) hother
    (Nat.le_of_not_le hlt)
  have hmore : more <+: back := (List.prefix_append_right_inj _).mp hother
  have hne : more ≠ [] := by
    rintro rfl
    exact hlt (by rw [List.append_nil])
  rw [List.getLast?_append_of_ne_nil _ hne] at hlast
  exact hback (hmore.subset (List.mem_of_getLast? hlast))

/-- Behind the last newline a stream that breaks off yields nothing. -/
theorem lines_broken_append {front back : Bytes} (hback : newline ∉ back)
    (hfront : front = [] ∨ front.getLast? = some newline) (fault : Fault) :
    (Stream.broken (front ++ back) fault).lines = (Stream.ofBytes front).lines := by
  have hraw : (Stream.broken (front ++ back) fault).rawLines = (Stream.ofBytes front).rawLines := by
    rcases hfront with rfl | hfront
    · simp [Stream.rawLines, Stream.broken, Stream.ofBytes, List.splitOn_eq_singleton hback]
    · obtain ⟨front, rfl⟩ := List.getLast?_eq_some_iff.mp hfront
      -- the rest is the last piece of the one, and the last piece of the other is empty
      simp [Stream.rawLines, Stream.broken, Stream.ofBytes, List.splitOn_append_cons_self,
        List.splitOn_eq_singleton hback]
  rw [Stream.lines, hraw]
  rfl

theorem exists_append_newline_not_mem (data : Bytes) :
    ∃ front back, data = front ++ back ∧ newline ∉ back ∧
      (front = [] ∨ front.getLast? = some newline) := by
  refine ⟨data.rdropWhile (· ≠ newline), data.rtakeWhile (· ≠ newline),
    List.rdropWhile_append_rtakeWhile.symm, ?_, ?_⟩
  · intro hmem
    simpa using List.mem_rtakeWhile_imp hmem
  · by_cases hne : data.rdropWhile (· ≠ newline) = []
    · exact .inl hne
    · right
      rw [List.getLast?_eq_some_getLast hne]
      simpa using List.rdropWhile_last_not _ _ hne

/-- **Reading line by line is decoding the whole.** Whatever bytes a stream
holds, if it ends then its lines are those of the text that all of them together
stand for. If it breaks off, the lines before that are those of the bytes up to
the last newline; what stands behind it is lost. -/
theorem readLines_eq_fileLines (data : Bytes) (fault : Fault) :
    (Stream.ofBytes data).readLines = .ok (Text.fileLines (decode data)) ∧
      (Stream.broken data fault).readLines = .error fault ∧
      ∃ front, UpToLastNewline front data ∧
        (Stream.broken data fault).lines = (Stream.ofBytes front).lines := by
  refine ⟨congrArg Except.ok (lines_eq_fileLines data), rfl, ?_⟩
  obtain ⟨front, back, rfl, hback, hfront⟩ := exists_append_newline_not_mem data
  exact ⟨front, upToLastNewline_of_append hback hfront, lines_broken_append hback hfront fault⟩

/-- A character that is cut short in front of a newline takes nothing of the
next line with it. -/
example : (Stream.ofBytes [0xE2, 0x82, 10, 0x41, 13]).lines = [['\uFFFD'], ['A']] := by decide

end TargetHelp
