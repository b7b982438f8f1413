import TargetHelp.Proofs.Pieces
import TargetHelp.Proofs.Trimming

/-!
# What folding keeps

A text that is folded loses spaces and nothing else: without their spaces, its
lines hold one after the other what the text holds (`Text.spaceless_fold`). So a
text without lines is one of spaces only, and it is the only kind of text that
has none (`Text.fold_eq_nil_iff`).
-/

namespace TargetHelp.Text

/-! ## Texts without their spaces -/

/-- A text without its spaces. -/
def spaceless (t : Text) : Text := t.filter (· ≠ ' ')

@[simp] theorem spaceless_nil : spaceless [] = [] := rfl

@[simp] theorem spaceless_append (s t : Text) : spaceless (s ++ t) = spaceless s ++ spaceless t :=
  List.filter_append ..

theorem spaceless_flatMap {α : Type*} (f : α → Text) (l : List α) :
    spaceless (l.flatMap f) = l.flatMap fun a => spaceless (f a) := List.filter_flatMap

theorem spaceless_eq_nil_iff {t : Text} : spaceless t = [] ↔ ∀ c ∈ t, c = ' ' := by
  simp [spaceless, List.filter_eq_nil_iff]

@[simp] theorem spaceless_replicate (n : Nat) : spaceless (List.replicate n ' ') = [] :=
  spaceless_eq_nil_iff.mpr fun _ hc => List.eq_of_mem_replicate hc

/-- Words are put together by spaces alone. -/
theorem spaceless_intercalate (words : List Text) :
    spaceless ([' '].intercalate words) = spaceless words.flatten := by
  have hspace : spaceless [' '] = [] := spaceless_replicate 1
  induction words with
  | nil => rfl
  | cons word words ih =>
    cases words with
    | nil => rw [List.intercalate_singleton, List.flatten_cons, List.flatten_nil, List.append_nil]
    | cons word' words =>
      rw [List.intercalate_cons_cons, spaceless_append, spaceless_append, ih, hspace,
        List.append_nil, ← spaceless_append]
      rfl

/-- Spaces are blank, so deleting them first or last is the same. -/
theorem spaceless_trimEnd (t : Text) : spaceless (trimEnd t) = trimEnd (spaceless t) := by
  have hdrop : ∀ s : Text, spaceless (s.dropWhile isBlank) = (spaceless s).dropWhile isBlank := by
    intro s
    induction s with
    | nil => rfl
    | cons c s ih =>
      by_cases hspace : c = ' '
      · have hblank : isBlank c = true := by rw [hspace]; decide
        rw [List.dropWhile_cons_of_pos hblank, ih, spaceless, spaceless,
          List.filter_cons_of_neg (by simp [hspace])]
      · have hkeep : spaceless (c :: s) = c :: spaceless s :=
          List.filter_cons_of_pos (by simp [hspace])
        rw [hkeep]
        by_cases hblank : isBlank c = true
        · rw [List.dropWhile_cons_of_pos hblank, List.dropWhile_cons_of_pos hblank, ih]
        · rw [List.dropWhile_cons_of_neg hblank, List.dropWhile_cons_of_neg hblank, hkeep]
  have hreverse : ∀ s : Text, spaceless s.reverse = (spaceless s).reverse := fun s =>
    List.filter_reverse ..
  rw [trimEnd, trimEnd, hreverse, hdrop, hreverse]

/-! ## Folding -/

namespace OpenLine

/-- What the lines that are finished and the one under way hold, without
spaces. -/
def content (done : List Text × OpenLine) : Text := spaceless (done.1.flatten ++ done.2.text)

theorem text_empty : empty.text = [] := rfl

/-- A line more in front holds what it holds. -/
theorem content_append (ls : List Text) (done : List Text × OpenLine) :
    content (ls ++ done.1, done.2) = spaceless ls.flatten ++ content done := by
  rw [content, content, List.flatten_append, List.append_assoc, spaceless_append]

/-- A line holds what its words hold. -/
theorem spaceless_text (p : OpenLine) : spaceless p.text = spaceless p.words.reverse.flatten :=
  spaceless_intercalate _

theorem spaceless_text_add (p : OpenLine) (word : Text) :
    spaceless (p.add word).text = spaceless p.text ++ spaceless word := by
  rw [spaceless_text, spaceless_text, add]
  split
  · next hnone =>
    split
    · next hempty => simp [List.isEmpty_iff.mp hempty]
    · simp [List.isEmpty_iff.mp hnone]
  · simp

theorem content_close (limit : Nat) (p : OpenLine) :
    content (p.close limit) = spaceless p.text := by
  rw [close]
  split <;> simp [content, text_empty]

theorem spaceless_flush (p : OpenLine) : spaceless p.flush.flatten = spaceless p.text := by
  rw [flush]
  split
  · next hnone => simp [spaceless_text, List.isEmpty_iff.mp hnone]
  · simp

theorem content_chop (limit : Nat) (word : Text) :
    content (chop limit word) = spaceless word := by
  -- on the length, since a piece is cut off the word each time
  induction hn : word.length using Nat.strongRecOn generalizing word with
  | ind n ih =>
    rw [chop.eq_def]
    split
    · rw [content_close, spaceless_text_add, text_empty]
      rfl
    · cases word with
      | nil => rfl
      | cons c rest =>
        have hlt : ∀ k, (rest.drop k).length < n := by
          intro k
          rw [← hn, List.length_drop, List.length_cons]
          omega
        have hcut : ∀ k, c :: rest.take k ++ rest.drop k = c :: rest := fun k =>
          congrArg (c :: ·) (List.take_append_drop k rest)
        have happend := content_append [c :: rest.take (fitting 0 limit (c :: rest) - 1)]
          (chop limit (rest.drop (fitting 0 limit (c :: rest) - 1)))
        rw [ih _ (hlt _) _ rfl, List.flatten_singleton, ← spaceless_append, hcut] at happend
        exact happend

theorem content_extend (limit : Nat) (p : OpenLine) (word : Text) :
    content (p.extend limit word) = spaceless p.text ++ spaceless word := by
  rw [extend]
  split
  · rw [content_close, spaceless_text_add]
  · split
    · have happend := content_append p.flush (chop limit word)
      rw [content_chop, spaceless_flush] at happend
      exact happend
    · -- the word is cut in two
      have happend := content_append [(p.add (word.take (fitting 0 (p.room limit) word))).text]
        (chop limit (word.drop (fitting 0 (p.room limit) word)))
      rw [content_chop, List.flatten_singleton, spaceless_text_add, List.append_assoc,
        ← spaceless_append, List.take_append_drop] at happend
      exact happend

end OpenLine

/-- Of a text that is folded, only spaces are lost. -/
theorem spaceless_fold (limit : Nat) (t : Text) :
    spaceless (fold limit t).flatten = spaceless t := by
  have hwords : ∀ (words : List Text) (done : List Text × OpenLine),
      OpenLine.content (words.foldl (fun done word =>
        (done.1 ++ (done.2.extend limit word).1, (done.2.extend limit word).2)) done) =
          OpenLine.content done ++ spaceless words.flatten := by
    intro words
    induction words with
    | nil => simp
    | cons word words ih =>
      intro done
      rw [List.foldl_cons, ih, OpenLine.content_append, OpenLine.content_extend]
      simp [OpenLine.content]
  have hcontent := hwords (t.splitOn ' ') ([], .empty)
  rw [← spaceless_intercalate, List.intercalate_splitOn, OpenLine.content,
    spaceless_append, ← OpenLine.spaceless_flush, ← spaceless_append] at hcontent
  rw [← List.flatten_append] at hcontent
  exact hcontent

/-- Only a text of nothing but spaces has no lines. -/
theorem fold_eq_nil_iff {limit : Nat} {t : Text} :
    fold limit t = [] ↔ ∀ c ∈ t, c = ' ' := by
  rw [← spaceless_eq_nil_iff]
  refine ⟨fun hnil => ?_, fun hspaces => ?_⟩
  · rw [← spaceless_fold limit, hnil]
    rfl
  · have hextend : OpenLine.empty.extend limit [] = ([], .empty) := by
      have hroom : width [] ≤ OpenLine.empty.room limit := Nat.zero_le _
      rw [OpenLine.extend, if_pos hroom]
      exact if_neg (Nat.not_lt_zero _)
    have hwords : ∀ word ∈ t.splitOn ' ', word = [] := by
      refine fun word hword => List.eq_nil_iff_forall_not_mem.mpr fun c hc => ?_
      obtain ⟨hmem, hne⟩ := mem_piece hword hc
      exact hne (spaceless_eq_nil_iff.mp hspaces c hmem)
    have hfold : (t.splitOn ' ').foldl (fun done word =>
        (done.1 ++ (done.2.extend limit word).1, (done.2.extend limit word).2))
          ([], OpenLine.empty) = ([], .empty) := by
      refine List.foldlRecOn (motive := (· = ([], OpenLine.empty))) _ _ rfl
        fun done hdone word hword => ?_
      rw [hdone, hwords word hword, hextend]
      rfl
    have hlines := congrArg (fun done => done.1 ++ done.2.flush) hfold
    exact hlines

end TargetHelp.Text
