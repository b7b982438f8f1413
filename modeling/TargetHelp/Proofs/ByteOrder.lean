import Mathlib.Data.List.Basic
import TargetHelp.Proofs.Encoding

/-!
# The order of texts and of their bytes

Texts are ordered by their characters, from the left. Written as bytes they are
ordered by these in just the same way (`Utf8.compare_encode`), since of two
characters the one with the smaller number has the smaller byte where their bytes
part (`Utf8.precedes_encodeChar`): the first byte tells how many bytes there are,
more of them for greater numbers, and then the bytes hold the digits of the
number, the most significant ones first.
-/

namespace TargetHelp.Utf8

/-- Two lists of bytes part somewhere, and there the first has the smaller
byte. -/
inductive Precedes : Bytes → Bytes → Prop where
  /-- they part at once -/
  | head {x y : UInt8} {a b : Bytes} : x < y → Precedes (x :: a) (y :: b)
  /-- they part behind a byte that they share -/
  | tail {x : UInt8} {a b : Bytes} : Precedes a b → Precedes (x :: a) (x :: b)

theorem precedes_of_lt {m n : Nat} (h : m < n) (hn : n < 256) (a b : Bytes) :
    Precedes (UInt8.ofNat m :: a) (UInt8.ofNat n :: b) := by
  apply Precedes.head
  rw [UInt8.lt_iff_toNat_lt, UInt8.toNat_ofNat_of_lt' (Nat.lt_trans h hn),
    UInt8.toNat_ofNat_of_lt' hn]
  exact h

/-- What stands behind the first bytes matters only if these are the same. -/
theorem precedes_of_le {m n : Nat} (h : m ≤ n) (hn : n < 256) {a b : Bytes}
    (hrest : m = n → Precedes a b) : Precedes (UInt8.ofNat m :: a) (UInt8.ofNat n :: b) := by
  rcases Nat.lt_or_eq_of_le h with hlt | rfl
  · exact precedes_of_lt hlt hn a b
  · exact .tail (hrest rfl)

/-- Of two characters, the one with the smaller number has the smaller bytes. -/
theorem precedes_encodeChar {c d : Char} (h : c.val.toNat < d.val.toNat) :
    Precedes (String.utf8EncodeChar c) (String.utf8EncodeChar d) := by
  have hd : d.val.toNat < 0x110000 := by
    have hvalid : d.val.toNat < 0xD800 ∨ 0xDFFF < d.val.toNat ∧ d.val.toNat < 0x110000 := d.valid
    omega
  -- where the numbers of bytes differ, the first bytes do
  fun_cases String.utf8EncodeChar c with
  | case1 v hv =>
    fun_cases String.utf8EncodeChar d with
    | case1 w hw => exact precedes_of_lt h (by omega) _ _
    | case2 w => exact precedes_of_lt (by omega) (by omega) _ _
    | case3 w => exact precedes_of_lt (by omega) (by omega) _ _
    | case4 w => exact precedes_of_lt (by omega) (by omega) _ _
  | case2 v hv hv' =>
    fun_cases String.utf8EncodeChar d with
    | case1 w hw => omega
    | case2 w hw hw' =>
      refine precedes_of_le (by omega) (by omega) fun _ => ?_
      exact precedes_of_lt (by omega) (by omega) _ _
    | case3 w => exact precedes_of_lt (by omega) (by omega) _ _
    | case4 w => exact precedes_of_lt (by omega) (by omega) _ _
  | case3 v hv hv' hv'' =>
    fun_cases String.utf8EncodeChar d with
    | case1 w hw => omega
    | case2 w hw hw' => omega
    | case3 w hw hw' hw'' =>
      refine precedes_of_le (by omega) (by omega) fun _ => ?_
      refine precedes_of_le (by omega) (by omega) fun _ => ?_
      exact precedes_of_lt (by omega) (by omega) _ _
    | case4 w => exact precedes_of_lt (by omega) (by omega) _ _
  | case4 v hv hv' hv'' =>
    fun_cases String.utf8EncodeChar d with
    | case1 w hw => omega
    | case2 w hw hw' => omega
    | case3 w hw hw' hw'' => omega
    | case4 w hw hw' hw'' =>
      refine precedes_of_le (by omega) (by omega) fun _ => ?_
      refine precedes_of_le (by omega) (by omega) fun _ => ?_
      refine precedes_of_le (by omega) (by omega) fun _ => ?_
      exact precedes_of_lt (by omega) (by omega) _ _

/-! ## Lists in order -/

theorem compare_cons_self {α : Type*} [Ord α] [Std.ReflOrd α] (x : α) (s t : List α) :
    compare (x :: s) (x :: t) = compare s t := by
  rw [List.compare_cons_cons, Std.ReflOrd.compare_self, Ordering.eq_then]

theorem compare_append_left {α : Type*} [Ord α] [Std.ReflOrd α] (p s t : List α) :
    compare (p ++ s) (p ++ t) = compare s t := by
  induction p with
  | nil => rfl
  | cons x p ih => rw [List.cons_append, List.cons_append, compare_cons_self, ih]

/-- Nothing that follows changes the order of what parts. -/
theorem Precedes.compare_append {a b : Bytes} (h : Precedes a b) (s t : Bytes) :
    compare (a ++ s) (b ++ t) = .lt := by
  induction h with
  | head hlt =>
    rw [List.cons_append, List.cons_append, List.compare_cons_cons, Std.compare_eq_lt.mpr hlt,
      Ordering.lt_then]
  | tail _ ih => rw [List.cons_append, List.cons_append, compare_cons_self, ih]

/-- Texts are in order at once where a character is smaller, and so are their
bytes. -/
theorem compare_of_char_lt {c d : Char} (h : c.val.toNat < d.val.toNat) (s t : Text) :
    compare (encode (c :: s)) (encode (d :: t)) = .lt ∧ compare (c :: s) (d :: t) = .lt := by
  have hlt : c < d := by
    rw [Char.lt_def, UInt32.lt_iff_toNat_lt]
    exact h
  have hchar : compare c d = .lt := if_pos hlt
  rw [encode_cons, encode_cons, List.compare_cons_cons, hchar]
  exact ⟨(precedes_encodeChar h).compare_append _ _, rfl⟩

theorem compare_encode_nil_cons (d : Char) (t : Text) :
    compare (encode []) (encode (d :: t)) = .lt := by
  rw [encode_cons]
  fun_cases String.utf8EncodeChar d with
  | case1 | case2 | case3 | case4 => rfl

/-- **Texts are ordered like their bytes.** -/
theorem compare_encode (s t : Text) : compare (encode s) (encode t) = compare s t := by
  have hswap : ∀ a b : Bytes, compare a b = (compare b a).swap := fun _ _ =>
    Std.OrientedCmp.eq_swap
  have hswap' : ∀ a b : Text, compare a b = (compare b a).swap := fun _ _ =>
    Std.OrientedCmp.eq_swap
  induction s generalizing t with
  | nil =>
    cases t with
    | nil => rfl
    | cons d t => exact compare_encode_nil_cons d t
  | cons c s ih =>
    cases t with
    | nil =>
      rw [hswap, compare_encode_nil_cons]
      rfl
    | cons d t =>
      rcases Nat.lt_trichotomy c.val.toNat d.val.toNat with hlt | heq | hlt
      · obtain ⟨hbytes, htext⟩ := compare_of_char_lt hlt s t
        rw [hbytes, htext]
      · obtain rfl : c = d := Char.ext (UInt32.toNat_inj.mp heq)
        rw [encode_cons, encode_cons, compare_append_left, ih, compare_cons_self]
      · obtain ⟨hbytes, htext⟩ := compare_of_char_lt hlt t s
        rw [hswap, hswap', hbytes, htext]

end TargetHelp.Utf8
