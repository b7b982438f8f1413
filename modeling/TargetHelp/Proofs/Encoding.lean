import Mathlib.Tactic.Common
import TargetHelp.Text.Utf8

/-!
# Text as bytes, and back

A text is written by writing its characters one after the other. The decoder
undoes that (`decode_encode`): from one character to the next it finds its way
back to where it began (`decodeFrom_encodeChar`). On the way it stands inside a
character, and what it knows there is the front of the number of that character.

The characters of ASCII are single bytes, and these bytes occur nowhere else
(`mem_encode_iff`), so a text may be cut at a newline before or after it is
written.
-/

namespace TargetHelp.Utf8

/-- The bytes of a text. -/
def encode (t : Text) : Bytes := t.flatMap String.utf8EncodeChar

@[simp] theorem encode_nil : encode [] = [] := rfl

@[simp] theorem encode_cons (c : Char) (t : Text) :
    encode (c :: t) = String.utf8EncodeChar c ++ encode t := rfl

@[simp] theorem encode_append (s t : Text) : encode (s ++ t) = encode s ++ encode t :=
  List.flatMap_append

/-! ## One byte of a character -/

/-- The first byte of two. -/
theorem start_two : ∀ k < 32, 2 ≤ k →
    start (UInt8.ofNat (k + 0xC0)) = ([], .inside k 0x80 0xBF 0) := by
  decide

/-- The first byte of three. The next byte is bounded where the number would be
too small, and where it would be that of a surrogate. -/
theorem start_three : ∀ k < 16, start (UInt8.ofNat (k + 0xE0)) =
    ([], .inside k (if k = 0 then 0xA0 else 0x80) (if k = 13 then 0x9F else 0xBF) 1) := by
  decide

/-- The first byte of four. The next byte is bounded where the number would be
too small, and where it would be too great. -/
theorem start_four : ∀ k < 5, start (UInt8.ofNat (k + 0xF0)) =
    ([], .inside k (if k = 0 then 0x90 else 0x80) (if k = 4 then 0x8F else 0xBF) 2) := by
  decide

/-- A byte inside a character is told by six bits, and admitted if it lies in
the bounds. -/
theorem toNat_inside {k : Nat} {low high : UInt8} (hk : k < 64) (hlow : low.toNat ≤ k + 0x80)
    (hhigh : k + 0x80 ≤ high.toNat) :
    (UInt8.ofNat (k + 0x80)).toNat = k + 0x80 ∧
      low ≤ UInt8.ofNat (k + 0x80) ∧ UInt8.ofNat (k + 0x80) ≤ high := by
  have hb : (UInt8.ofNat (k + 0x80)).toNat = k + 0x80 :=
    UInt8.toNat_ofNat_of_lt' (by simp only [UInt8.size]; omega)
  rw [UInt8.le_iff_toNat_le, UInt8.le_iff_toNat_le, hb]
  exact ⟨rfl, hlow, hhigh⟩

/-- The last byte of a character completes its number. -/
theorem decodeFrom_last {value k : Nat} (hk : k < 64) (bs : Bytes) :
    decodeFrom (.inside value 0x80 0xBF 0) (UInt8.ofNat (k + 0x80) :: bs) =
      Char.ofNat (value * 64 + k) :: decodeFrom .ground bs := by
  obtain ⟨hb, hin⟩ := @toNat_inside k 0x80 0xBF hk (Nat.le_add_left ..) (by change _ ≤ 0xBF; omega)
  have hstep : step (.inside value 0x80 0xBF 0) (UInt8.ofNat (k + 0x80)) =
      ([Char.ofNat (value * 64 + k)], .ground) := by
    simp only [step, if_pos hin, hb, Nat.add_sub_cancel]
  rw [decodeFrom_cons, hstep]
  rfl

/-- A byte that is not the last leaves the decoder inside the character. -/
theorem decodeFrom_inside {value k : Nat} {low high : UInt8} (more : Nat) (hk : k < 64)
    (hlow : low.toNat ≤ k + 0x80) (hhigh : k + 0x80 ≤ high.toNat) (bs : Bytes) :
    decodeFrom (.inside value low high (more + 1)) (UInt8.ofNat (k + 0x80) :: bs) =
      decodeFrom (.inside (value * 64 + k) 0x80 0xBF more) bs := by
  obtain ⟨hb, hin⟩ := toNat_inside hk hlow hhigh
  have hstep : step (.inside value low high (more + 1)) (UInt8.ofNat (k + 0x80)) =
      ([], .inside (value * 64 + k) 0x80 0xBF more) := by
    simp only [step, if_pos hin, hb, Nat.add_sub_cancel]
  rw [decodeFrom_cons, hstep]
  rfl

/-! ## One character -/

theorem decodeFrom_one {v : Nat} (h : v < 0x80) (bs : Bytes) :
    decodeFrom .ground (UInt8.ofNat v :: bs) = Char.ofNat v :: decodeFrom .ground bs := by
  have hb : (UInt8.ofNat v).toNat = v :=
    UInt8.toNat_ofNat_of_lt' (by simp only [UInt8.size]; omega)
  have hlt : UInt8.ofNat v < 0x80 := by
    rw [UInt8.lt_iff_toNat_lt, hb]
    exact h
  rw [decodeFrom_cons, step, start, if_pos hlt, hb]
  rfl

theorem decodeFrom_two {v : Nat} (hlow : 0x80 ≤ v) (hhigh : v < 0x800) (bs : Bytes) :
    decodeFrom .ground
        (UInt8.ofNat (v / 64 % 0x20 + 0xC0) :: UInt8.ofNat (v % 0x40 + 0x80) :: bs) =
      Char.ofNat v :: decodeFrom .ground bs := by
  have hv : v / 64 % 0x20 * 64 + v % 0x40 = v := by omega
  rw [decodeFrom_cons, step, start_two _ (by omega) (by omega), List.nil_append,
    decodeFrom_last (by omega)]
  exact congrArg (Char.ofNat · :: _) hv

theorem decodeFrom_three {v : Nat} (hlow : 0x800 ≤ v) (hhigh : v < 0x10000)
    (hvalid : v < 0xD800 ∨ 0xDFFF < v) (bs : Bytes) :
    decodeFrom .ground
        (UInt8.ofNat (v / 4096 % 0x10 + 0xE0) :: UInt8.ofNat (v / 64 % 0x40 + 0x80) ::
          UInt8.ofNat (v % 0x40 + 0x80) :: bs) =
      Char.ofNat v :: decodeFrom .ground bs := by
  have hv : (v / 4096 % 0x10 * 64 + v / 64 % 0x40) * 64 + v % 0x40 = v := by omega
  rw [decodeFrom_cons, step, start_three _ (by omega), List.nil_append,
    decodeFrom_inside 0 (by omega) ?_ ?_, decodeFrom_last (by omega)]
  · exact congrArg (Char.ofNat · :: _) hv
  -- the second byte keeps its bounds, since the number is not too small and no surrogate's
  · split
    · change 0xA0 ≤ _
      omega
    · change 0x80 ≤ _
      omega
  · split
    · change _ ≤ 0x9F
      omega
    · change _ ≤ 0xBF
      omega

theorem decodeFrom_four {v : Nat} (hlow : 0x10000 ≤ v) (hhigh : v < 0x110000) (bs : Bytes) :
    decodeFrom .ground
        (UInt8.ofNat (v / 262144 % 0x08 + 0xF0) :: UInt8.ofNat (v / 4096 % 0x40 + 0x80) ::
          UInt8.ofNat (v / 64 % 0x40 + 0x80) :: UInt8.ofNat (v % 0x40 + 0x80) :: bs) =
      Char.ofNat v :: decodeFrom .ground bs := by
  have hv : ((v / 262144 % 0x08 * 64 + v / 4096 % 0x40) * 64 + v / 64 % 0x40) * 64 + v % 0x40 =
      v := by omega
  rw [decodeFrom_cons, step, start_four _ (by omega), List.nil_append,
    decodeFrom_inside 1 (by omega) ?_ ?_, decodeFrom_inside 0 (by omega)
      (Nat.le_add_left ..) (by change _ ≤ 0xBF; omega), decodeFrom_last (by omega)]
  · exact congrArg (Char.ofNat · :: _) hv
  · split
    · change 0x90 ≤ _
      omega
    · change 0x80 ≤ _
      omega
  · split
    · change _ ≤ 0x8F
      omega
    · change _ ≤ 0xBF
      omega

/-- Between two characters, the bytes of a character are decoded to it, and the
decoder stands between two characters again. -/
theorem decodeFrom_encodeChar (c : Char) (bs : Bytes) :
    decodeFrom .ground (String.utf8EncodeChar c ++ bs) = c :: decodeFrom .ground bs := by
  have hvalid : c.val.toNat < 0xD800 ∨ 0xDFFF < c.val.toNat ∧ c.val.toNat < 0x110000 := c.valid
  have hc : Char.ofNat c.val.toNat = c := Char.ofNat_toNat c
  fun_cases String.utf8EncodeChar c with
  | case1 v h =>
    rw [List.singleton_append, decodeFrom_one (Nat.lt_succ_of_le h), hc]
  | case2 v h1 h2 =>
    exact (decodeFrom_two (by omega) (by omega) bs).trans (congrArg (· :: _) hc)
  | case3 v h1 h2 h3 =>
    exact (decodeFrom_three (by omega) (by omega) (by omega) bs).trans (congrArg (· :: _) hc)
  | case4 v h1 h2 h3 =>
    exact (decodeFrom_four (by omega) (by omega) bs).trans (congrArg (· :: _) hc)

/-- Decoding undoes the writing of a text. -/
theorem decode_encode (t : Text) : decode (encode t) = t := by
  induction t with
  | nil => rfl
  | cons c t ih =>
    rw [decode, encode_cons, decodeFrom_encodeChar]
    exact congrArg (c :: ·) ih

/-! ## Bytes of ASCII -/

/-- The bytes of a character beyond ASCII are beyond ASCII themselves. -/
theorem le_of_mem_encodeChar {c : Char} (hc : 0x80 ≤ c.val.toNat) :
    ∀ b ∈ String.utf8EncodeChar c, 0x80 ≤ b.toNat := by
  have hbyte : ∀ n, 0x80 ≤ n → n < 256 → 0x80 ≤ (UInt8.ofNat n).toNat := by
    intro n hlow hsize
    rw [UInt8.toNat_ofNat_of_lt' hsize]
    exact hlow
  fun_cases String.utf8EncodeChar c with
  | case1 v h1 => omega
  | case2 v h1 h2 =>
    intro b hb
    simp only [List.mem_cons, List.not_mem_nil, or_false] at hb
    rcases hb with rfl | rfl <;> exact hbyte _ (by omega) (by omega)
  | case3 v h1 h2 h3 =>
    intro b hb
    simp only [List.mem_cons, List.not_mem_nil, or_false] at hb
    rcases hb with rfl | rfl | rfl <;> exact hbyte _ (by omega) (by omega)
  | case4 v h1 h2 h3 =>
    intro b hb
    simp only [List.mem_cons, List.not_mem_nil, or_false] at hb
    rcases hb with rfl | rfl | rfl | rfl <;> exact hbyte _ (by omega) (by omega)

/-- A character of ASCII is a byte of its own. -/
theorem encodeChar_of_lt {c : Char} (hc : c.val.toNat < 0x80) :
    String.utf8EncodeChar c = [UInt8.ofNat c.val.toNat] := by
  rw [String.utf8EncodeChar]
  exact if_pos (Nat.le_of_lt_succ hc)

/-- The byte of a character of ASCII is among those of no other character. -/
theorem mem_encodeChar_iff {a : Char} (ha : a.val.toNat < 0x80) {c : Char} :
    UInt8.ofNat a.val.toNat ∈ String.utf8EncodeChar c ↔ c = a := by
  have hbyte : (UInt8.ofNat a.val.toNat).toNat = a.val.toNat :=
    UInt8.toNat_ofNat_of_lt' (Nat.lt_trans ha (by decide))
  constructor
  · intro h
    have hc : c.val.toNat < 0x80 := by
      by_contra hc
      have hle := le_of_mem_encodeChar (Nat.le_of_not_lt hc) _ h
      omega
    rw [encodeChar_of_lt hc, List.mem_singleton] at h
    have hval : a.val.toNat = c.val.toNat := by
      rw [← hbyte, h, UInt8.toNat_ofNat_of_lt' (Nat.lt_trans hc (by decide))]
    exact Char.ext (UInt32.toNat_inj.mp hval.symm)
  · rintro rfl
    rw [encodeChar_of_lt ha]
    exact List.mem_singleton_self _

/-- The byte of a character of ASCII is among those of a text exactly if the
character is in the text. -/
theorem mem_encode_iff {a : Char} (ha : a.val.toNat < 0x80) {t : Text} :
    UInt8.ofNat a.val.toNat ∈ encode t ↔ a ∈ t := by
  rw [encode, List.mem_flatMap]
  constructor
  · rintro ⟨c, hc, hmem⟩
    rw [← (mem_encodeChar_iff ha).mp hmem]
    exact hc
  · intro h
    exact ⟨a, h, (mem_encodeChar_iff ha).mpr rfl⟩

end TargetHelp.Utf8
