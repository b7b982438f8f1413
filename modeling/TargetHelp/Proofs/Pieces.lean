import Mathlib.Data.List.Basic
import Mathlib.Data.List.Count
import TargetHelp.Text.Fold

/-!
# The pieces between two separators

A list is cut at a separator into pieces. A piece holds what the list holds, but
not the separator (`mem_piece`), and there is one piece more than there are
separators (`length_splitOn`).

Lines are the pieces between newlines. A text that is printed line by line, a
newline behind each, has these lines and an empty one at its end
(`Text.lines_flatMap_newline`).

A line that is folded is cut as well, but its words are put together again by
spaces: what is true of all characters of a line, and of the space, is true of
all that it is folded into (`Text.forall_mem_fold`).
-/

namespace TargetHelp

/-! ## Lists -/

section Lists

variable {α : Type*} [BEq α] [LawfulBEq α]

/-- The first element of a list is a separator, or it goes to the first piece
of what follows. -/
theorem splitOn_cons_cases (a x : α) (l : List α) :
    x = a ∧ (x :: l).splitOn a = [] :: l.splitOn a ∨
      x ≠ a ∧ ∃ p ps, l.splitOn a = p :: ps ∧ (x :: l).splitOn a = (x :: p) :: ps := by
  rw [List.splitOn_cons_eq_if_modifyHead]
  by_cases h : x = a
  · left
    simp [h]
  · right
    obtain ⟨p, ps, hp⟩ := List.exists_cons_of_ne_nil (List.splitOn_ne_nil a l)
    refine ⟨h, p, ps, hp, ?_⟩
    rw [if_neg (by simp [h]), hp]
    rfl

/-- A piece holds what the list holds, but not the separator. -/
theorem mem_piece {a x : α} {l piece : List α} (h : piece ∈ l.splitOn a) (hx : x ∈ piece) :
    x ∈ l ∧ x ≠ a := by
  induction l generalizing piece with
  | nil =>
    rw [List.splitOn_nil, List.mem_singleton] at h
    rw [h] at hx
    cases hx
  | cons y l ih =>
    rcases splitOn_cons_cases a y l with ⟨-, hy⟩ | ⟨hne, p, ps, hl, hy⟩
    · rw [hy] at h
      rcases List.mem_cons.mp h with rfl | h
      · cases hx
      · exact (ih h hx).imp_left (List.mem_cons_of_mem _)
    · rw [hl] at ih
      rw [hy] at h
      rcases List.mem_cons.mp h with rfl | h
      · rcases List.mem_cons.mp hx with rfl | hx
        · exact ⟨List.mem_cons_self .., hne⟩
        · exact (ih (List.mem_cons_self ..) hx).imp_left (List.mem_cons_of_mem _)
      · exact (ih (List.mem_cons_of_mem _ h) hx).imp_left (List.mem_cons_of_mem _)

/-- There is one piece more than there are separators. -/
theorem length_splitOn (a : α) (l : List α) : (l.splitOn a).length = l.count a + 1 := by
  induction l with
  | nil => rfl
  | cons x l ih =>
    rcases splitOn_cons_cases a x l with ⟨rfl, hx⟩ | ⟨hne, p, ps, hl, hx⟩
    · rw [hx, List.length_cons, ih, List.count_cons_self]
    · rw [hl] at ih
      rw [hx, List.count_cons_of_ne hne, ← ih]
      rfl

end Lists

/-! ## Lines -/

/-- Lines that are printed one by one are the lines of what is printed, with an
empty one at the end. -/
theorem Text.lines_flatMap_newline {ls : List Text} (h : ∀ line ∈ ls, '\n' ∉ line) :
    lines (ls.flatMap (· ++ ['\n'])) = ls ++ [[]] := by
  induction ls with
  | nil => rfl
  | cons line ls ih =>
    have hline := h line (List.mem_cons_self ..)
    rw [List.flatMap_cons, List.append_assoc, List.singleton_append, lines,
      List.splitOn_append_cons_self_of_not_mem hline]
    exact congrArg (line :: ·) (ih fun l hl => h l (List.mem_cons_of_mem _ hl))

/-! ## Folded lines -/

namespace Text

variable {P : Char → Prop}

/-- What is put together by a separator holds the separator and what there
was. -/
theorem forall_mem_intercalate {sep : Text} {ls : List Text} (hsep : ∀ c ∈ sep, P c)
    (h : ∀ l ∈ ls, ∀ c ∈ l, P c) : ∀ c ∈ sep.intercalate ls, P c := by
  induction ls with
  | nil => simp [List.intercalate]
  | cons l ls ih =>
    have hl := h l (List.mem_cons_self ..)
    have hls := ih fun l' hl' => h l' (List.mem_cons_of_mem _ hl')
    cases ls with
    | nil => simpa [List.intercalate] using hl
    | cons l' ls =>
      rw [List.intercalate_cons_cons]
      simp only [List.mem_append]
      rintro c ((hc | hc) | hc)
      · exact hl c hc
      · exact hsep c hc
      · exact hls c hc

namespace OpenLine

/-- All characters of the words of a line are of this kind. -/
def All (P : Char → Prop) (p : OpenLine) : Prop := ∀ word ∈ p.words, ∀ c ∈ word, P c

theorem all_empty : All P empty := fun _ h => absurd h List.not_mem_nil

variable (hspace : P ' ')

include hspace in
theorem All.text {p : OpenLine} (h : p.All P) : ∀ c ∈ p.text, P c := by
  refine forall_mem_intercalate ?_ fun word hword => h word (List.mem_reverse.mp hword)
  intro c hc
  rw [List.mem_singleton.mp hc]
  exact hspace

theorem All.add {p : OpenLine} (h : p.All P) {word : Text} (hword : ∀ c ∈ word, P c) :
    (p.add word).All P := by
  rw [OpenLine.add]
  split
  · split
    · exact h
    · intro w hw
      rw [List.mem_singleton.mp hw]
      exact hword
  · intro w hw
    rcases List.mem_cons.mp hw with rfl | hw
    · exact hword
    · exact h w hw

/-- All characters of the lines that are finished, and of the one under way, are
of this kind. -/
def AllDone (P : Char → Prop) (done : List Text × OpenLine) : Prop :=
  (∀ line ∈ done.1, ∀ c ∈ line, P c) ∧ done.2.All P

include hspace in
theorem All.close {p : OpenLine} (h : p.All P) (limit : Nat) : AllDone P (p.close limit) := by
  rw [OpenLine.close]
  split
  · refine ⟨fun line hline => ?_, all_empty⟩
    rw [List.mem_singleton.mp hline]
    exact h.text hspace
  · exact ⟨fun _ h => absurd h List.not_mem_nil, h⟩

include hspace in
theorem All.flush {p : OpenLine} (h : p.All P) : ∀ line ∈ p.flush, ∀ c ∈ line, P c := by
  rw [OpenLine.flush]
  split
  · exact fun _ h => absurd h List.not_mem_nil
  · intro line hline
    rw [List.mem_singleton.mp hline]
    exact h.text hspace

include hspace in
theorem allDone_chop (limit : Nat) {word : Text} (hword : ∀ c ∈ word, P c) :
    AllDone P (chop limit word) := by
  -- on the length, since a piece is cut off the word each time
  induction hn : word.length using Nat.strongRecOn generalizing word with
  | ind n ih =>
    rw [chop.eq_def]
    split
    · exact (all_empty.add hword).close hspace limit
    · cases word with
      | nil => exact ⟨fun _ h => absurd h List.not_mem_nil, all_empty⟩
      | cons c rest =>
        have hc := hword c (List.mem_cons_self ..)
        have hrest : ∀ d ∈ rest, P d := fun d hd => hword d (List.mem_cons_of_mem _ hd)
        have hlt : ∀ k, (rest.drop k).length < n := by
          intro k
          rw [← hn, List.length_drop, List.length_cons]
          omega
        obtain ⟨hlines, hlast⟩ := ih _ (hlt (fitting 0 limit (c :: rest) - 1))
          (fun d hd => hrest d (List.mem_of_mem_drop hd)) rfl
        refine ⟨fun line hline => ?_, hlast⟩
        rcases List.mem_cons.mp hline with rfl | hline
        · intro d hd
          rcases List.mem_cons.mp hd with rfl | hd
          · exact hc
          · exact hrest d (List.mem_of_mem_take hd)
        · exact hlines line hline

include hspace in
theorem All.extend {p : OpenLine} (h : p.All P) (limit : Nat) {word : Text}
    (hword : ∀ c ∈ word, P c) : AllDone P (p.extend limit word) := by
  have hdrop : ∀ n, ∀ c ∈ word.drop n, P c := fun n c hc => hword c (List.mem_of_mem_drop hc)
  have htake : ∀ n, ∀ c ∈ word.take n, P c := fun n c hc => hword c (List.mem_of_mem_take hc)
  rw [OpenLine.extend]
  split
  · exact (h.add hword).close hspace limit
  · split
    · obtain ⟨hlines, hlast⟩ := allDone_chop hspace limit hword
      refine ⟨fun line hline => ?_, hlast⟩
      rcases List.mem_append.mp hline with hline | hline
      · exact h.flush hspace line hline
      · exact hlines line hline
    · obtain ⟨hlines, hlast⟩ := allDone_chop hspace limit (hdrop (fitting 0 (p.room limit) word))
      refine ⟨fun line hline => ?_, hlast⟩
      rcases List.mem_cons.mp hline with rfl | hline
      · exact (h.add (htake _)).text hspace
      · exact hlines line hline

end OpenLine

/-- What is true of all characters of a text, and of the space, is true of all
that the text is folded into. -/
theorem forall_mem_fold (hspace : P ' ') (limit : Nat) {t : Text} (ht : ∀ c ∈ t, P c) :
    ∀ line ∈ fold limit t, ∀ c ∈ line, P c := by
  have hstart : OpenLine.AllDone P ([], .empty) :=
    ⟨fun _ h => absurd h List.not_mem_nil, OpenLine.all_empty⟩
  obtain ⟨hlines, hlast⟩ : OpenLine.AllDone P ((t.splitOn ' ').foldl (fun done word =>
      (done.1 ++ (done.2.extend limit word).1, (done.2.extend limit word).2)) ([], .empty)) := by
    refine List.foldlRecOn _ _ hstart fun done hdone word hword => ?_
    obtain ⟨hmore, hlast⟩ := hdone.2.extend hspace limit fun c hc => ht c (mem_piece hword hc).1
    refine ⟨fun line hline => ?_, hlast⟩
    rcases List.mem_append.mp hline with hline | hline
    · exact hdone.1 line hline
    · exact hmore line hline
  intro line hline
  rcases List.mem_append.mp hline with hline | hline
  · exact hlines line hline
  · exact hlast.flush hspace line hline

end Text

end TargetHelp
