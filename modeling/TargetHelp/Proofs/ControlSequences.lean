import Mathlib.Data.List.TakeWhile
import TargetHelp.Proofs.Trimming
import TargetHelp.Table

/-!
# Control sequences in printed text

A terminal does not show the control sequences in what is printed, it follows
them. A text is read here as a terminal reads it: from the left, a control
sequence that begins at a position is taken whole, and any other character is
shown (`Text.shown`). What is left without the sequences is `Text.uncolored`,
and what is seen of a line is that without blanks at its end (`Text.seen`).

Two rules carry the rest. A character that belongs to no sequence parts a text:
what stands before it and behind it is read on its own (`Text.shown_append_cons`).
And a painted text is read as the sequences around it and all of its characters,
if it has no escape character itself (`Text.shown_paint_append`).
-/

namespace TargetHelp

namespace Text

/-! ## Reading printed text -/

/-- The characters of which the codes of a control sequence are made: digits and
semicolons. -/
def codeChars : CodePointSet := [(0x30, 0x39), (0x3B, 0x3B)]

/-- Whether a character may stand among the codes of a control sequence. -/
def isCode (c : Char) : Bool := codeChars.has c

/-- Reads the control sequence that a text begins with: its codes, with what is
left behind it. -/
def control? : Text → Option (Text × Text)
  | '\x1b' :: '[' :: rest =>
    match rest.dropWhile isCode with
    | 'm' :: after => some (rest.takeWhile isCode, after)
    | _ => none
  | _ => none

/-- The control sequence of some codes. -/
def sequence (codes : Text) : Text := '\x1b' :: '[' :: codes ++ ['m']

/-- A text begins with a control sequence exactly if that is read. -/
theorem control?_eq_some_iff {t codes after : Text} :
    control? t = some (codes, after) ↔
      t = sequence codes ++ after ∧ ∀ c ∈ codes, isCode c = true := by
  refine ⟨fun h => ?_, ?_⟩
  · unfold control? at h
    split at h
    · next rest =>
      split at h
      · next behind hdrop =>
        simp only [Option.some.injEq, Prod.mk.injEq] at h
        obtain ⟨rfl, rfl⟩ := h
        refine ⟨?_, fun c hc => List.all_eq_true.mp List.all_takeWhile c hc⟩
        have hrest : rest.takeWhile isCode ++ 'm' :: behind = rest := by
          rw [← hdrop, List.takeWhile_append_dropWhile]
        simp [sequence, hrest]
      · cases h
    · cases h
  · rintro ⟨rfl, hcodes⟩
    have hend : ('m' :: after).dropWhile isCode = 'm' :: after :=
      List.dropWhile_cons_of_neg (by decide)
    have hend' : ('m' :: after).takeWhile isCode = [] := List.takeWhile_cons_of_neg (by decide)
    have hdrop : (codes ++ 'm' :: after).dropWhile isCode = 'm' :: after := by
      rw [List.dropWhile_append_of_pos hcodes, hend]
    have htake : (codes ++ 'm' :: after).takeWhile isCode = codes := by
      rw [List.takeWhile_append_of_pos hcodes, hend', List.append_nil]
    simp [sequence, control?, hdrop, htake]

theorem length_lt_of_control? {t codes after : Text} (h : control? t = some (codes, after)) :
    after.length < t.length := by
  rw [(control?_eq_some_iff.mp h).1, sequence]
  simp
  omega

/-- A text as a terminal reads it: the characters that are shown, and the codes
of the control sequences between them. -/
def shown (t : Text) : List (Char ⊕ Text) :=
  match t with
  | [] => []
  | c :: rest =>
    match _h : control? (c :: rest) with
    | some (codes, after) => .inr codes :: shown after
    | none => .inl c :: shown rest
termination_by t.length
decreasing_by
  · exact length_lt_of_control? _h
  · simp

/-- A text without its control sequences. -/
def uncolored (t : Text) : Text := (shown t).filterMap Sum.getLeft?

/-- The codes of the control sequences of a text, in order. -/
def controls (t : Text) : List Text := (shown t).filterMap Sum.getRight?

/-- What is seen of a printed line. -/
def seen (t : Text) : Text := trimEnd (uncolored t)

@[simp] theorem shown_nil : shown [] = [] := by
  rw [shown]

theorem shown_of_control? {t codes after : Text} (h : control? t = some (codes, after)) :
    shown t = .inr codes :: shown after := by
  match t, h with
  | c :: t, h =>
    rw [shown]
    split
    · next codes' after' h' =>
      rw [h, Option.some.injEq, Prod.mk.injEq] at h'
      rw [← h'.1, ← h'.2]
    · next h' => rw [h] at h'; cases h'

theorem shown_cons_of_control?_eq_none {c : Char} {t : Text} (h : control? (c :: t) = none) :
    shown (c :: t) = .inl c :: shown t := by
  rw [shown]
  split
  · next h' => rw [h] at h'; cases h'
  · rfl

/-! ## Characters that part a text -/

/-- The characters of which control sequences are made. -/
def sequenceChars : CodePointSet := [(0x1B, 0x1B), (0x5B, 0x5B), (0x6D, 0x6D)] ++ codeChars

/-- A character belongs to no control sequence. -/
def IsPlain (c : Char) : Prop := sequenceChars.has c = false

instance (c : Char) : Decidable (IsPlain c) := inferInstanceAs (Decidable (_ = _))

theorem IsPlain.not_mem_sequence {c : Char} (hc : IsPlain c) {codes : Text}
    (hcodes : ∀ c ∈ codes, isCode c = true) : c ∉ sequence codes := by
  suffices ∀ d ∈ sequence codes, sequenceChars.has d = true by
    intro hmem
    have hhas := this c hmem
    rw [hc] at hhas
    cases hhas
  have hcode : ∀ d ∈ codes, sequenceChars.has d = true := by
    intro d hd
    have hd' : codeChars.has d = true := hcodes d hd
    obtain ⟨r, hr, hrange⟩ := CodePointSet.has_iff.mp hd'
    exact CodePointSet.has_iff.mpr ⟨r, List.mem_append_right _ hr, hrange⟩
  intro d hd
  simp only [sequence, List.cons_append, List.mem_cons, List.mem_append, List.not_mem_nil,
    or_false] at hd
  rcases hd with rfl | rfl | hd | rfl
  · decide
  · decide
  · exact hcode d hd
  · decide

/-- A sequence does not reach beyond a character that belongs to none. -/
theorem control?_append_cons {c : Char} (hc : IsPlain c) (a b : Text) :
    control? (a ++ c :: b) = (control? a).map fun p => (p.1, p.2 ++ c :: b) := by
  cases h : control? a with
  | some p =>
    obtain ⟨ha, hcodes⟩ := control?_eq_some_iff.mp h
    rw [Option.map_some, control?_eq_some_iff]
    exact ⟨by rw [ha, List.append_assoc], hcodes⟩
  | none =>
    rw [Option.map_none, Option.eq_none_iff_forall_ne_some]
    rintro ⟨codes, after⟩ hsome
    obtain ⟨heq, hcodes⟩ := control?_eq_some_iff.mp hsome
    -- the sequence ends before the character, since it does not hold it
    rcases List.append_eq_append_iff.mp heq with ⟨more, hsequence, hmore⟩ | ⟨more, rfl, -⟩
    · cases more with
      | nil =>
        rw [List.append_nil] at hsequence
        have ha : control? a = some (codes, []) :=
          control?_eq_some_iff.mpr ⟨by rw [hsequence, List.append_nil], hcodes⟩
        rw [h] at ha
        cases ha
      | cons d more =>
        obtain rfl := (List.cons.inj hmore).1
        exact hc.not_mem_sequence hcodes (hsequence ▸ by simp)
    · have ha : control? (sequence codes ++ more) = some (codes, more) :=
        control?_eq_some_iff.mpr ⟨rfl, hcodes⟩
      rw [h] at ha
      cases ha

/-- What stands before a character that belongs to no sequence, and what stands
behind it, is read on its own. -/
theorem shown_append_cons {c : Char} (hc : IsPlain c) (a b : Text) :
    shown (a ++ c :: b) = shown a ++ .inl c :: shown b := by
  -- on the length, since a sequence is taken whole
  induction hn : a.length using Nat.strongRecOn generalizing a with
  | ind n ih =>
    cases a with
    | nil =>
      have hnone : control? (c :: b) = none := control?_append_cons hc [] b
      rw [List.nil_append, shown_cons_of_control?_eq_none hnone, shown_nil, List.nil_append]
    | cons x a =>
      have happend := control?_append_cons hc (x :: a) b
      cases h : control? (x :: a) with
      | some p =>
        obtain ⟨codes, after⟩ := p
        rw [h, Option.map_some] at happend
        rw [shown_of_control? happend, shown_of_control? h,
          ih after.length (hn ▸ length_lt_of_control? h) after rfl, List.cons_append]
      | none =>
        rw [h, Option.map_none, List.cons_append] at happend
        rw [List.cons_append, shown_cons_of_control?_eq_none happend,
          shown_cons_of_control?_eq_none h, ih a.length (hn ▸ by simp) a rfl, List.cons_append]

/-- A text without the escape character is shown as it is. -/
theorem shown_append_of_not_mem {t : Text} (h : '\x1b' ∉ t) (b : Text) :
    shown (t ++ b) = t.map .inl ++ shown b := by
  induction t with
  | nil => rfl
  | cons c t ih =>
    have hc : control? (c :: (t ++ b)) = none := by
      rw [Option.eq_none_iff_forall_ne_some]
      intro p hp
      have heq := (control?_eq_some_iff.mp hp).1
      exact h (by rw [(List.cons.inj heq).1]; exact List.mem_cons_self ..)
    rw [List.cons_append, shown_cons_of_control?_eq_none hc,
      ih fun hmem => h (List.mem_cons_of_mem _ hmem)]
    rfl

@[simp] theorem uncolored_nil : uncolored [] = [] := by
  rw [uncolored, shown_nil]
  rfl

@[simp] theorem controls_nil : controls [] = [] := by
  rw [controls, shown_nil]
  rfl

/-- What is read of parts one after the other is read of them together. -/
theorem read_flatMap {α β : Type*} {read : Text → List β} (hnil : read [] = []) {f : α → Text}
    {g : α → List β} {l : List α} (h : ∀ x ∈ l, ∀ b, read (f x ++ b) = g x ++ read b) :
    read (l.flatMap f) = l.flatMap g := by
  induction l with
  | nil => exact hnil
  | cons x l ih =>
    rw [List.flatMap_cons, List.flatMap_cons, h x (List.mem_cons_self ..),
      ih fun y hy => h y (List.mem_cons_of_mem _ hy)]

theorem uncolored_append_of_not_mem {t : Text} (h : '\x1b' ∉ t) (b : Text) :
    uncolored (t ++ b) = t ++ uncolored b := by
  rw [uncolored, shown_append_of_not_mem h, List.filterMap_append, List.filterMap_map]
  exact congrArg (· ++ uncolored b) List.filterMap_some

theorem controls_append_of_not_mem {t : Text} (h : '\x1b' ∉ t) (b : Text) :
    controls (t ++ b) = controls b := by
  have hnone : (t.map (Sum.inl (β := Text))).filterMap Sum.getRight? = [] := by
    rw [List.filterMap_map]
    exact List.filterMap_eq_nil_iff.mpr fun _ _ => rfl
  rw [controls, shown_append_of_not_mem h, List.filterMap_append, hnone]
  rfl

/-- Blanks belong to no sequence. -/
theorem isPlain_of_isBlank {c : Char} (h : isBlank c = true) : IsPlain c :=
  CodePointSet.has_eq_false_of_disjoint (by decide) h

/-- Blanks at the end of a text are shown behind all that is shown of it. -/
theorem shown_append_of_isBlank (t : Text) {blanks : Text} (h : ∀ c ∈ blanks, isBlank c = true) :
    shown (t ++ blanks) = shown t ++ blanks.map .inl := by
  cases blanks with
  | nil => rw [List.append_nil, List.map_nil, List.append_nil]
  | cons c blanks =>
    have hescape : '\x1b' ∉ blanks := fun hmem =>
      absurd (h _ (List.mem_cons_of_mem _ hmem)) (by decide)
    have hblanks := shown_append_of_not_mem hescape []
    rw [shown_nil, List.append_nil, List.append_nil] at hblanks
    rw [shown_append_cons (isPlain_of_isBlank (h c (List.mem_cons_self ..))), hblanks]
    rfl

/-- What is seen of a line does not depend on blanks at its end. -/
theorem seen_trimEnd (t : Text) : seen (trimEnd t) = seen t := by
  obtain ⟨blanks, hblanks, hblank⟩ := exists_trimEnd_append t
  have hleft : (blanks.map (Sum.inl (β := Text))).filterMap Sum.getLeft? = blanks := by
    rw [List.filterMap_map]
    exact List.filterMap_some
  have huncolored : uncolored t = uncolored (trimEnd t) ++ blanks := by
    conv_lhs => rw [← hblanks]
    rw [uncolored, shown_append_of_isBlank _ hblank, List.filterMap_append, hleft]
    rfl
  rw [seen, seen, huncolored, trimEnd_append_of_isBlank _ hblank]

/-- Nor do the control sequences of a line. -/
theorem controls_trimEnd (t : Text) : controls (trimEnd t) = controls t := by
  obtain ⟨blanks, hblanks, hblank⟩ := exists_trimEnd_append t
  have hright : (blanks.map (Sum.inl (β := Text))).filterMap Sum.getRight? = [] := by
    rw [List.filterMap_map]
    exact List.filterMap_eq_nil_iff.mpr fun _ _ => rfl
  conv_rhs => rw [← hblanks]
  rw [controls, controls, shown_append_of_isBlank _ hblank, List.filterMap_append, hright,
    List.append_nil]

/-! ## Painted texts -/

theorem shown_sequence_append {codes : Text} (h : ∀ c ∈ codes, isCode c = true) (b : Text) :
    shown (sequence codes ++ b) = .inr codes :: shown b :=
  shown_of_control? (control?_eq_some_iff.mpr ⟨rfl, h⟩)

/-- A text is a single control sequence. -/
def IsSequence (t : Text) : Prop := ∃ codes, (∀ c ∈ codes, isCode c = true) ∧ t = sequence codes

theorem isSequence_sequence (codes : Text) (h : codes.all isCode = true) :
    IsSequence (sequence codes) := ⟨codes, List.all_eq_true.mp h, rfl⟩

end Text

open Text

/-- A palette changes colours by control sequences. -/
structure Palette.IsControl (p : Palette) : Prop where
  /-- one switches to green -/
  green : IsSequence p.green
  /-- one switches to light blue -/
  blue : IsSequence p.blue
  /-- one switches back -/
  reset : IsSequence p.reset

theorem Palette.isControl_colored : Palette.colored.IsControl where
  green := isSequence_sequence "38;5;2".toList (by decide)
  blue := isSequence_sequence "38;5;12".toList (by decide)
  reset := isSequence_sequence "39".toList (by decide)

theorem Palette.isControl_colorless : Palette.colorless.IsControl where
  green := isSequence_sequence [] rfl
  blue := isSequence_sequence [] rfl
  reset := isSequence_sequence [] rfl

/-- What belongs to no sequence is in a painted text only if it is in the text. -/
theorem Palette.IsControl.not_mem_paint {p : Palette} (hp : p.IsControl) {c : Char}
    (hc : IsPlain c) (color : Color) {t : Text} (h : c ∉ t) : c ∉ p.paint color t := by
  have hsequence : ∀ {s : Text}, IsSequence s → c ∉ s := by
    rintro s ⟨codes, hcodes, rfl⟩
    exact hc.not_mem_sequence hcodes
  cases color with
  | plain => exact h
  | green => simp [Palette.paint, h, hsequence hp.green, hsequence hp.reset]
  | blue => simp [Palette.paint, h, hsequence hp.blue, hsequence hp.reset]

/-- The codes that a palette puts in front of a painted text, and those behind
it. -/
def Palette.codes (p : Palette) : Color → List Text × List Text
  | .plain => ([], [])
  | .green => (controls p.green, controls p.reset)
  | .blue => (controls p.blue, controls p.reset)

/-- A painted text is shown whole, between the sequences of its colour. -/
theorem shown_paint_append {p : Palette} (hp : p.IsControl) (color : Color) {t : Text}
    (h : '\x1b' ∉ t) (b : Text) :
    shown (p.paint color t ++ b) =
      (p.codes color).1.map .inr ++ t.map .inl ++ (p.codes color).2.map .inr ++ shown b := by
  have hsequence : ∀ {s : Text}, IsSequence s → ∀ b,
      shown (s ++ b) = (controls s).map .inr ++ shown b := by
    rintro s ⟨codes, hcodes, rfl⟩ b
    have hcontrols : controls (sequence codes) = [codes] := by
      have hshown := shown_sequence_append hcodes []
      rw [List.append_nil] at hshown
      rw [controls, hshown, shown_nil]
      rfl
    rw [shown_sequence_append hcodes, hcontrols]
    rfl
  cases color with
  | plain =>
    rw [Palette.paint, shown_append_of_not_mem h]
    simp [Palette.codes]
  | green =>
    rw [Palette.paint, List.append_assoc, List.append_assoc, hsequence hp.green,
      shown_append_of_not_mem h, hsequence hp.reset]
    simp [Palette.codes]
  | blue =>
    rw [Palette.paint, List.append_assoc, List.append_assoc, hsequence hp.blue,
      shown_append_of_not_mem h, hsequence hp.reset]
    simp [Palette.codes]

/-- Without control sequences, a painted text is the text. -/
theorem uncolored_paint_append {p : Palette} (hp : p.IsControl) (color : Color) {t : Text}
    (h : '\x1b' ∉ t) (b : Text) : uncolored (p.paint color t ++ b) = t ++ uncolored b := by
  rw [uncolored, shown_paint_append hp color h]
  simp [List.filterMap_append, List.filterMap_map, Function.comp_def, uncolored]

/-- The control sequences of a painted text are those of its colour. -/
theorem controls_paint_append {p : Palette} (hp : p.IsControl) (color : Color) {t : Text}
    (h : '\x1b' ∉ t) (b : Text) :
    controls (p.paint color t ++ b) = (p.codes color).1 ++ (p.codes color).2 ++ controls b := by
  rw [controls, shown_paint_append hp color h]
  simp [List.filterMap_append, List.filterMap_map, Function.comp_def, controls]

end TargetHelp
