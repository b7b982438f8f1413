import Mathlib.Data.List.Basic
import Mathlib.Data.List.GetD
import TargetHelp.Proofs.Trimming
import TargetHelp.Proofs.Writing

/-!
# How a table is laid out

What a table prints can be told by positions, without following how it is built
(`Layout`). Its steps end some rows and leave the rest unfinished. Every row
becomes as many lines as its tallest cell has pieces, and in every line stands,
column by column, a field filled up to the width of the widest text of that
column.

`session_eq_layout` says that this is what is printed, for all steps. What
positions do not tell is where a text is cut that is wider than a column can be
(`Text.fold`). A line with such a text does not stay one line
(`session_ne_unfolded`): it is printed as the lines that it is folded into, and
the lines beside it are printed as ever.
-/

namespace TargetHelp

open Table

/-! ## Steps, row by row -/

namespace Table

/-- The steps that build these rows, and then stage cells of a row that is never
ended. -/
def stepsOf (rows : List Row) (staged : Row) : List Step :=
  rows.flatMap (fun row => row.map Step.cell ++ [.endRow]) ++ staged.map Step.cell

theorem stepsOf_cons (row : Row) (rows : List Row) (staged : Row) :
    stepsOf (row :: rows) staged = row.map Step.cell ++ .endRow :: stepsOf rows staged := by
  simp [stepsOf]

/-- All steps are of this kind. -/
theorem exists_eq_stepsOf (steps : List Step) : ∃ rows staged, steps = stepsOf rows staged := by
  induction steps with
  | nil => exact ⟨[], [], rfl⟩
  | cons step steps ih =>
    obtain ⟨rows, staged, rfl⟩ := ih
    cases step with
    | endRow => exact ⟨[] :: rows, staged, (stepsOf_cons [] rows staged).symm⟩
    | cell c =>
      cases rows with
      | nil => exact ⟨[], c :: staged, rfl⟩
      | cons row rows =>
        exact ⟨(c :: row) :: rows, staged, by rw [stepsOf_cons, stepsOf_cons]; rfl⟩

theorem rowsFrom_append (staged row : Row) (steps : List Step) :
    rowsFrom staged (row.map Step.cell ++ steps) = rowsFrom (staged ++ row) steps := by
  induction row generalizing staged with
  | nil => rw [List.map_nil, List.nil_append, List.append_nil]
  | cons c row ih =>
    rw [List.map_cons, List.cons_append, rowsFrom, ih, List.append_assoc]
    rfl

/-- They build the rows that they end. -/
theorem rows_stepsOf (rs : List Row) (staged : Row) : rows (stepsOf rs staged) = rs := by
  induction rs with
  | nil =>
    have hstaged := rowsFrom_append [] staged []
    rw [List.append_nil] at hstaged
    exact hstaged
  | cons row rs ih =>
    rw [rows, stepsOf_cons, rowsFrom_append, rowsFrom, List.nil_append]
    exact congrArg (row :: ·) ih

end Table

/-! ## The layout, by positions -/

namespace Layout

/-- The number of pieces of the tallest cell of a row. A row without cells has
one. -/
def height (row : Row) : Nat :=
  (row.map fun cell => (Text.lines cell.text).length).max?.getD 1

/-- One line of a row: empty cells on the left as far as the row has too few,
and of every cell the piece that stands at this height. -/
def lineOf (columns : Nat) (row : Row) (k : Nat) : List Cell :=
  List.replicate (columns - row.length) .empty ++ row.map (·.piece k)

/-- The lines of some rows, from the top. -/
def lines (columns : Nat) (rows : List Row) : List (List Cell) :=
  rows.flatMap fun row => (List.range (height row)).map (lineOf columns row)

/-- The number of cells of the longest line. -/
def columnCount (ls : List (List Cell)) : Nat := (ls.map List.length).max?.getD 0

/-- The width of the widest text in a column. -/
def widest (ls : List (List Cell)) (j : Nat) : Nat :=
  (ls.map fun line => width (line.getD j .empty).text).max?.getD 0

/-- The width of a column: that of its widest text, but at least one and no more
than 65535. -/
def measure (ls : List (List Cell)) (j : Nat) : Nat := min 65535 (max 1 (widest ls j))

/-- A cell in column `j` of `n`: its text, filled up to the width of the column
and, if it is not the last, by the gap to the next, in the cell's colour. -/
def filled (palette : Palette) (w : Nat → Nat) (n j : Nat) (cell : Cell) : Text :=
  palette.paint cell.color
    (cell.text ++ List.replicate (w j - width cell.text) ' ' ++
      List.replicate (if j + 1 = n then 0 else 4) ' ')

/-- What a line shows in column `j` of `n`. A cell that the line lacks on the
right is blank. -/
def field (palette : Palette) (w : Nat → Nat) (n : Nat) (line : List Cell) (j : Nat) : Text :=
  filled palette w n j (line.getD j .empty)

/-- A line as it is printed, in `n` columns of these widths. -/
def printed (palette : Palette) (w : Nat → Nat) (n : Nat) (line : List Cell) : Text :=
  Text.trimEnd ((List.range n).flatMap (field palette w n line)) ++ ['\n']

/-- What a line that is folded shows in column `j` of `n`, on the `i`-th of the
lines that it takes: the next part of the cell, or bare filling when there is
none. -/
def foldedField (palette : Palette) (w : Nat → Nat) (n : Nat) (line : List Cell) (i j : Nat) :
    Text :=
  match ((line.map foldCell).getD j [])[i]? with
  | some part => filled palette w n j part
  | none => List.replicate (min 65535 (w j + if j + 1 = n then 0 else 4)) ' '

/-- The number of lines that a line of a table with `n` columns is folded into:
as many as its cell of the most parts has. Cells that it lacks on the right take
one. -/
def foldCount (n : Nat) (line : List Cell) : Nat :=
  max (if line.length < n then 1 else 0) ((line.map fun cell => (foldCell cell).length).max?.getD 0)

/-- A line that is folded, as it is printed. -/
def folded (palette : Palette) (w : Nat → Nat) (n : Nat) (line : List Cell) : Text :=
  (List.range (foldCount n line)).flatMap fun i =>
    Text.trimEnd ((List.range n).flatMap (foldedField palette w n line i)) ++ ['\n']

/-- The table of these rows if no column was ever too wide. -/
def unfolded (palette : Palette) (columns : Nat) (rows : List Row) : Text :=
  let ls := lines columns rows
  if columnCount ls = 0 then []
  else ls.flatMap (printed palette (fun j => max 1 (widest ls j)) (columnCount ls))

/-- The table of these rows. No column is wider than 65535, and a line with a
text that is wider is folded, by itself. -/
def text (palette : Palette) (columns : Nat) (rows : List Row) : Text :=
  let ls := lines columns rows
  let w := fun j => min 65535 (max 1 (widest ls j))
  if columnCount ls = 0 then []
  else ls.flatMap fun line =>
    if ∀ cell ∈ line, width cell.text ≤ 65535 then printed palette w (columnCount ls) line
    else folded palette w (columnCount ls) line

/-! ## Its measures -/

theorem foldl_max (a : Nat) (l : List Nat) : l.foldl max a = max a (l.max?.getD 0) := by
  cases l with
  | nil => exact (Nat.max_zero a).symm
  | cons x l =>
    rw [List.max?_cons', Option.getD_some, List.foldl_cons, List.foldl_assoc]

theorem height_eq (row : Row) : row.height = height row := by
  rw [Row.height, height, foldl_max]
  cases hmax : (row.map fun cell => (Text.lines cell.text).length).max? with
  | none => rfl
  | some m =>
    -- every cell has at least one piece
    obtain ⟨cell, -, hcell⟩ := List.mem_map.mp (List.max?_mem hmax)
    have hpos : 0 < (Text.lines cell.text).length :=
      List.length_pos_of_ne_nil (List.splitOn_ne_nil '\n' cell.text)
    exact Nat.max_eq_right (hcell ▸ hpos)

theorem lines_eq (columns : Nat) (rows : List Row) :
    Table.lines columns rows = lines columns rows := by
  refine List.flatMap_congr fun row _ => ?_
  rw [Row.lines, height_eq]
  rfl

theorem columnCount_eq (ls : List (List Cell)) : Table.columnCount ls = columnCount ls := by
  rw [Table.columnCount, foldl_max, Nat.zero_max, columnCount]

theorem foldLine_eq (n : Nat) (line : List Cell) :
    foldLine n line =
      (List.range (foldCount n line)).map fun i => (line.map foldCell).map (·[i]?) := by
  rw [foldLine, foldl_max, foldCount, List.map_map]
  rfl

theorem columnWidth_eq (ls : List (List Cell)) : columnWidth ls = measure ls := by
  funext j
  rw [columnWidth, foldl_max, measure, widest]
  rfl

/-- No number of a list is greater than the greatest. -/
theorem le_max?_getD {l : List Nat} {m : Nat} (h : m ∈ l) : m ≤ l.max?.getD 0 := by
  cases hmax : l.max? with
  | none =>
    rw [List.max?_eq_none_iff.mp hmax] at h
    cases h
  | some greatest => exact (List.max?_le_iff hmax).mp (Nat.le_refl greatest) m h

theorem length_le_columnCount {ls : List (List Cell)} {line : List Cell} (h : line ∈ ls) :
    line.length ≤ columnCount ls := le_max?_getD (List.mem_map_of_mem h)

theorem width_getD_le_widest {ls : List (List Cell)} {line : List Cell} (h : line ∈ ls) (j : Nat) :
    width (line.getD j .empty).text ≤ widest ls j :=
  le_max?_getD (List.mem_map.mpr ⟨line, h, rfl⟩)

end Layout

/-! ## Its lines -/

/-- What the elements of a list yield is what its positions yield, as far as any
reach. -/
theorem flatMap_range_getD {α β : Type*} {g : α → List β} {d : α} (hd : g d = []) {l : List α}
    {n : Nat} (h : l.length ≤ n) :
    ((List.range n).flatMap fun j => g (l.getD j d)) = l.flatMap g := by
  induction l generalizing n with
  | nil =>
    refine List.flatMap_eq_nil_iff.mpr fun j _ => ?_
    rw [List.getD_nil, hd]
  | cons x l ih =>
    obtain ⟨n, rfl⟩ : ∃ m, n = m + 1 := ⟨n - 1, by simp at h; omega⟩
    rw [List.range_succ_eq_map, List.flatMap_cons, List.flatMap_map, List.getD_cons_zero,
      List.flatMap_cons]
    simp only [List.getD_cons_succ]
    rw [ih (Nat.le_of_succ_le_succ h)]

/-- Fields differ in nothing that is not trimmed off, if they agree up to some
column and are blank from there on. -/
theorem Text.trimEnd_flatMap_range {f g : Nat → Text} {m n : Nat} (hmn : m ≤ n)
    (heq : ∀ j < m, f j = g j) (hf : ∀ j, m ≤ j → ∀ c ∈ f j, isBlank c = true)
    (hg : ∀ j, m ≤ j → ∀ c ∈ g j, isBlank c = true) :
    trimEnd ((List.range n).flatMap f) = trimEnd ((List.range n).flatMap g) := by
  obtain ⟨extra, rfl⟩ := Nat.exists_eq_add_of_le hmn
  have hblank : ∀ {f : Nat → Text}, (∀ j, m ≤ j → ∀ c ∈ f j, isBlank c = true) →
      ∀ c ∈ ((List.range extra).map (m + ·)).flatMap f, isBlank c = true := by
    intro f hf c hc
    obtain ⟨j, hj, hc⟩ := List.mem_flatMap.mp hc
    obtain ⟨i, -, rfl⟩ := List.mem_map.mp hj
    exact hf _ (Nat.le_add_right m i) c hc
  rw [List.range_add, List.flatMap_append, List.flatMap_append,
    trimEnd_append_of_isBlank _ (hblank hf), trimEnd_append_of_isBlank _ (hblank hg),
    List.flatMap_congr fun j hj => heq j (List.mem_range.mp hj)]

namespace Table

variable (palette : Palette)

theorem fields_cons_cons (w w' : Nat) (ws : List Nat) (line : List (Option Cell)) :
    fields palette (w :: w' :: ws) line =
      field palette w gap (line.headD none) ++ fields palette (w' :: ws) line.tail := rfl

/-- The fields of a line, column by column. -/
theorem fields_map_range (w : Nat → Nat) (n : Nat) (line : List (Option Cell)) :
    fields palette ((List.range n).map w) line =
      (List.range n).flatMap fun j =>
        field palette (w j) (if j + 1 = n then 0 else gap) (line.getD j none) := by
  induction n generalizing w line with
  | zero => rfl
  | succ n ih =>
    have hhead : line.headD none = line.getD 0 none := by cases line <;> rfl
    have htail : ∀ j, line.tail.getD j none = line.getD (j + 1) none := by
      intro j
      cases line <;> rfl
    rw [List.range_succ_eq_map, List.map_cons, List.map_map, List.flatMap_cons, List.flatMap_map]
    cases n with
    | zero =>
      rw [List.range_zero, List.map_nil, List.flatMap_nil, fields, hhead, List.append_nil]
      rfl
    | succ n =>
      have hrest := ih (w ∘ Nat.succ) line.tail
      simp only [htail] at hrest
      rw [List.range_succ_eq_map, List.map_cons] at hrest ⊢
      rw [fields_cons_cons, hhead, hrest]
      simp

/-- Lines are printed one by one. -/
theorem print_eq_flatMap (widths : List Nat) (ls : List (List Cell)) :
    print palette widths ls = ls.flatMap fun line => print palette widths [line] := by
  simp [print, List.map_flatMap]

/-- A line is printed as the lines that it is folded into. -/
theorem print_singleton (w : Nat → Nat) (n : Nat) (line : List Cell) :
    (print palette ((List.range n).map w) [line]).flatMap (· ++ ['\n']) =
      Layout.folded palette w n line := by
  have hfields : ∀ i, fields palette ((List.range n).map w) ((line.map foldCell).map (·[i]?)) =
      (List.range n).flatMap (Layout.foldedField palette w n line i) := by
    intro i
    rw [fields_map_range]
    refine List.flatMap_congr fun j _ => ?_
    have hpart := List.getD_map (line.map foldCell) [] (n := j) (·[i]?)
    rw [List.getElem?_nil] at hpart
    rw [hpart, Layout.foldedField]
    cases ((line.map foldCell).getD j [])[i]? <;> rfl
  rw [print, List.flatMap_singleton, List.length_map, List.length_range, Layout.foldLine_eq,
    List.flatMap_map, List.flatMap_map, Layout.folded]
  exact List.flatMap_congr fun i _ => congrArg (fun t => Text.trimEnd t ++ ['\n']) (hfields i)

/-- A line whose texts fit is printed as its layout says. What it lacks on the
right is trimmed off, however it was filled. -/
theorem print_singleton_of_le {w : Nat → Nat} {n : Nat} {line : List Cell} (hn : n ≠ 0)
    (hlength : line.length ≤ n) (h : ∀ cell ∈ line, width cell.text ≤ limit) :
    (print palette ((List.range n).map w) [line]).flatMap (· ++ ['\n']) =
      Layout.printed palette w n line := by
  have hne : line.length < n ∨ line ≠ [] := by
    rcases Nat.eq_zero_or_pos line.length with h0 | hpos
    · exact .inl (h0 ▸ Nat.pos_of_ne_zero hn)
    · exact .inr (List.ne_nil_of_length_pos hpos)
  have hfold : foldLine ((List.range n).map w).length line = [line.map some] := by
    rw [List.length_map, List.length_range]
    exact foldLine_of_le hne h
  have hpaint : ∀ t : Text, palette.paint Cell.empty.color t = t := fun _ => rfl
  have hspace : isBlank ' ' = true := by decide
  have htrim : Text.trimEnd (fields palette ((List.range n).map w) (line.map some)) =
      Text.trimEnd ((List.range n).flatMap (Layout.field palette w n line)) := by
    rw [fields_map_range]
    refine Text.trimEnd_flatMap_range hlength (fun j hj => ?_) (fun j hj c hc => ?_)
      (fun j hj c hc => ?_)
    · simp [Layout.field, Layout.filled, field, hj, gap]
    · rw [List.getD_eq_default _ _ (by rwa [List.length_map])] at hc
      rw [List.eq_of_mem_replicate hc, hspace]
    · rw [Layout.field, List.getD_eq_default _ _ hj, Layout.filled, hpaint, Cell.empty,
        List.nil_append, ← List.replicate_add] at hc
      rw [List.eq_of_mem_replicate hc, hspace]
  rw [print, List.flatMap_singleton, hfold, List.map_singleton, List.flatMap_singleton, htrim,
    Layout.printed]

/-- The table of some rows is what their layout says. -/
theorem render_eq_text (columns : Nat) (rows : List Row) :
    render palette columns rows = Layout.text palette columns rows := by
  have hwidths : columnWidths (Layout.lines columns rows) =
      (List.range (Layout.columnCount (Layout.lines columns rows))).map
        (Layout.measure (Layout.lines columns rows)) := by
    rw [columnWidths, Layout.columnCount_eq, Layout.columnWidth_eq]
  rw [render, Layout.lines_eq, layOut, hwidths, Layout.text]
  split
  · next hnil =>
    rw [List.map_eq_nil_iff, List.range_eq_nil] at hnil
    exact (if_pos hnil).symm
  · next hne =>
    have hcount : Layout.columnCount (Layout.lines columns rows) ≠ 0 := fun h0 =>
      hne (by rw [h0]; rfl)
    rw [if_neg hcount, print_eq_flatMap, List.flatMap_assoc]
    refine List.flatMap_congr fun line hline => ?_
    split
    · next hfits =>
      exact print_singleton_of_le palette hcount (Layout.length_le_columnCount hline) hfits
    · exact print_singleton palette _ _ line

end Table

namespace Layout

/-- Without a text that is too wide, no column is. -/
theorem widest_le {ls : List (List Cell)} {m : Nat}
    (h : ∀ line ∈ ls, ∀ cell ∈ line, width cell.text ≤ m) (j : Nat) : widest ls j ≤ m := by
  have hline : ∀ line ∈ ls, width (line.getD j .empty).text ≤ m := by
    intro line hline
    rcases Nat.lt_or_ge j line.length with hj | hj
    · rw [List.getD_eq_getElem _ _ hj]
      exact h line hline _ (List.getElem_mem hj)
    · rw [List.getD_eq_default _ _ hj]
      exact Nat.zero_le m
  rw [widest]
  cases hmax : (ls.map fun line => width (line.getD j .empty).text).max? with
  | none => exact Nat.zero_le m
  | some widest =>
    obtain ⟨line, hmem, rfl⟩ := List.mem_map.mp (List.max?_mem hmax)
    exact hline line hmem

/-- Then nothing is folded. -/
theorem text_eq_unfolded (palette : Palette) {columns : Nat} {rows : List Row}
    (h : ∀ line ∈ lines columns rows, ∀ cell ∈ line, width cell.text ≤ 65535) :
    text palette columns rows = unfolded palette columns rows := by
  have hw : (fun j => min 65535 (max 1 (widest (lines columns rows) j))) =
      fun j => max 1 (widest (lines columns rows) j) :=
    funext fun j => Nat.min_eq_right (Nat.max_le.mpr ⟨by decide, widest_le h j⟩)
  simp only [text, unfolded, hw]
  refine if_congr Iff.rfl rfl (List.flatMap_congr fun line hline => ?_)
  exact if_pos (h line hline)

end Layout

/-! ## Cells of one line -/

theorem Cell.piece_zero {cell : Cell} (h : '\n' ∉ cell.text) : cell.piece 0 = cell := by
  have hlines : Text.lines cell.text = [cell.text] := List.splitOn_eq_singleton h
  rw [Cell.piece, hlines]
  rfl

theorem Cell.piece_succ {cell : Cell} (h : '\n' ∉ cell.text) (k : Nat) :
    cell.piece (k + 1) = .empty := by
  have hlines : Text.lines cell.text = [cell.text] := List.splitOn_eq_singleton h
  rw [Cell.piece, hlines]
  rfl

namespace Layout

/-- Cells of one line do not make a row taller. -/
theorem foldl_max_lines {row : Row} (h : ∀ cell ∈ row, '\n' ∉ cell.text) :
    (row.map fun cell => (Text.lines cell.text).length).foldl max 1 = 1 := by
  induction row with
  | nil => rfl
  | cons cell row ih =>
    have hlines : Text.lines cell.text = [cell.text] :=
      List.splitOn_eq_singleton (h cell (List.mem_cons_self ..))
    rw [List.map_cons, List.foldl_cons, hlines]
    exact ih fun c hc => h c (List.mem_cons_of_mem _ hc)

/-- Rows of such cells are lines. -/
theorem lines_of_not_mem (columns : Nat) {rows : List Row}
    (h : ∀ row ∈ rows, ∀ cell ∈ row, '\n' ∉ cell.text) :
    lines columns rows =
      rows.map fun row => List.replicate (columns - row.length) .empty ++ row := by
  rw [lines, List.map_eq_flatMap]
  refine List.flatMap_congr fun row hrow => ?_
  have hpieces : row.map (·.piece 0) = row := by
    rw [List.map_congr_left fun cell hcell => Cell.piece_zero (h row hrow cell hcell), List.map_id']
  rw [← height_eq, Row.height, foldl_max_lines (h row hrow), List.range_one, List.map_singleton,
    lineOf, hpieces]

/-- In a table without least number of columns, the rows are the lines. -/
theorem lines_zero {rows : List Row} (h : ∀ row ∈ rows, ∀ cell ∈ row, '\n' ∉ cell.text) :
    lines 0 rows = rows := by
  rw [lines_of_not_mem 0 h]
  simp

end Layout

/-! ## A text that is too wide -/

/-- Letters take a column each. -/
theorem width_replicate (n : Nat) : width (List.replicate n 'a') = n := by
  have hplace : Width.place 'a' Width.Right.none = (1, Width.Right.none) := by decide
  have hfold : (List.replicate n 'a').foldr (fun c after =>
      (after.1 + (Width.place c after.2).1, (Width.place c after.2).2))
        ((0 : Int), Width.Right.none) = ((n : Int), Width.Right.none) := by
    induction n with
    | zero => rfl
    | succ n ih =>
      rw [List.replicate_succ, List.foldr_cons, ih, hplace]
      rfl
  have hwidth := congrArg (fun p => p.1.toNat) hfold
  exact hwidth

namespace Text

theorem restOfCluster_replicate (n : Nat) :
    restOfCluster (.ofChar 'a') (List.replicate n 'a') = ([], List.replicate n 'a') := by
  have hjoin : (ClusterEnd.ofChar 'a').join? 'a' = none := by decide
  cases n with
  | zero => rfl
  | succ n => rw [List.replicate_succ, restOfCluster, hjoin]

/-- As many letters fit as there are columns. -/
theorem fitting_replicate (taken room n : Nat) :
    fitting taken room (List.replicate n 'a') = taken + min room n := by
  induction n generalizing taken room with
  | zero => rw [List.replicate_zero, fitting, Nat.min_zero]; rfl
  | succ n ih =>
    have hone : width ['a'] = 1 := width_replicate 1
    rw [List.replicate_succ, fitting]
    simp only [restOfCluster_replicate, hone, ih, List.length_nil]
    split <;> omega

namespace OpenLine

theorem chop_one {limit : Nat} (h : 3 ≤ limit) : chop limit ['a'] = ([], ⟨[['a']], 1⟩) := by
  have hone : width ['a'] = 1 := width_replicate 1
  have hadd : empty.add ['a'] = ⟨[['a']], 1⟩ := by simp [empty, add, hone]
  have hopen : ¬ limit - slack < 1 := by rw [slack]; omega
  rw [chop, if_pos (by omega), hadd, close, if_neg hopen]

/-- A word of letters that is one column too wide takes two lines. -/
theorem chop_replicate {limit : Nat} (h : 3 ≤ limit) :
    chop limit (List.replicate (limit + 1) 'a') =
      ([List.replicate limit 'a'], ⟨[['a']], 1⟩) := by
  have hwide : ¬ width (List.replicate (limit + 1) 'a') ≤ limit := by
    rw [width_replicate]
    exact Nat.not_succ_le_self limit
  have hfitting : fitting 0 limit (List.replicate (limit + 1) 'a') - 1 = limit - 1 := by
    rw [fitting_replicate]
    omega
  have hline : 'a' :: List.replicate (limit - 1) 'a' = List.replicate limit 'a' := by
    rw [← List.replicate_succ, Nat.sub_add_cancel (by omega)]
  rw [List.replicate_succ] at hwide hfitting ⊢
  rw [chop, if_neg hwide]
  simp only [hfitting, List.take_replicate, List.drop_replicate]
  rw [Nat.min_eq_left (Nat.sub_le limit 1), hline, show limit - (limit - 1) = 1 by omega]
  exact congrArg (fun p => (_ :: p.1, p.2)) (chop_one h)

end OpenLine

/-- A text of letters that is one column too wide is folded onto two lines. -/
theorem fold_replicate {limit : Nat} (h : 3 ≤ limit) :
    fold limit (List.replicate (limit + 1) 'a') = [List.replicate limit 'a', ['a']] := by
  have hsplit : (List.replicate (limit + 1) 'a').splitOn ' ' = [List.replicate (limit + 1) 'a'] :=
    List.splitOn_eq_singleton fun hmem => absurd (List.eq_of_mem_replicate hmem) (by decide)
  have hextend : OpenLine.empty.extend limit (List.replicate (limit + 1) 'a') =
      ([List.replicate limit 'a'], ⟨[['a']], 1⟩) := by
    have hroom : ¬ width (List.replicate (limit + 1) 'a') ≤ OpenLine.empty.room limit := by
      rw [width_replicate]
      exact Nat.not_succ_le_self limit
    rw [OpenLine.extend, if_neg hroom, OpenLine.chop_replicate h]
    simp [OpenLine.empty, OpenLine.flush]
  simp only [fold, hsplit, List.foldl_cons, List.foldl_nil, hextend]
  rfl

/-- Letters are not trimmed off, but the blanks behind them are. -/
theorem trimEnd_replicate (m n : Nat) :
    trimEnd (List.replicate m 'a' ++ List.replicate n ' ') = List.replicate m 'a' := by
  have hspace : isBlank ' ' = true := by decide
  rw [trimEnd_append_of_isBlank _ fun c hc => by rw [List.eq_of_mem_replicate hc, hspace]]
  cases m with
  | zero => rfl
  | succ m => rw [List.replicate_succ', trimEnd_concat (by decide)]

end Text

namespace Layout

/-- A cell of letters. -/
def letters (n : Nat) : Cell := ⟨.plain, List.replicate n 'a'⟩

theorem newline_not_mem_letters (n : Nat) : '\n' ∉ (letters n).text :=
  fun hmem => absurd (List.eq_of_mem_replicate hmem) (by decide)

theorem lines_letters (n : Nat) : lines 0 [[letters n]] = [[letters n]] := by
  refine lines_zero fun row hrow cell hcell => ?_
  rw [List.mem_singleton.mp hrow] at hcell
  rw [List.mem_singleton.mp hcell]
  exact newline_not_mem_letters n

theorem trimEnd_filled (palette : Palette) (w : Nat → Nat) (n : Nat) :
    Text.trimEnd (filled palette w 1 0 (letters n)) = List.replicate n 'a' := by
  have hpaint : ∀ t : Text, palette.paint (letters n).color t = t := fun _ => rfl
  rw [filled, hpaint, List.append_assoc, ← List.replicate_add]
  exact Text.trimEnd_replicate _ _

theorem unfolded_letters (palette : Palette) (n : Nat) :
    unfolded palette 0 [[letters n]] = List.replicate n 'a' ++ ['\n'] := by
  have hcount : columnCount [[letters n]] = 1 := rfl
  simp only [unfolded, lines_letters, hcount, if_neg Nat.one_ne_zero, List.flatMap_singleton]
  rw [printed, List.range_one, List.flatMap_singleton]
  exact congrArg (· ++ ['\n']) (trimEnd_filled palette _ n)

/-- Letters that are one column too wide do not fit. -/
theorem not_width_letters_le : ¬ width (List.replicate (limit + 1) 'a') ≤ limit := by
  rw [width_replicate]
  exact Nat.not_succ_le_self limit

/-- They are folded, in their colour. -/
theorem foldCell_letters (color : Color) : foldCell ⟨color, List.replicate (limit + 1) 'a'⟩ =
    [⟨color, List.replicate limit 'a'⟩, ⟨color, ['a']⟩] := by
  rw [foldCell, if_neg not_width_letters_le, Text.fold_replicate (by decide)]
  rfl

/-- They are printed on two lines. -/
theorem text_letters (palette : Palette) :
    text palette 0 [[letters (limit + 1)]] = List.replicate limit 'a' ++ ['\n', 'a', '\n'] := by
  have hwide : ¬ width (letters (limit + 1)).text ≤ limit := by
    rw [letters]
    exact not_width_letters_le
  have hcount : columnCount [[letters (limit + 1)]] = 1 := rfl
  have hfoldCount : foldCount 1 [letters (limit + 1)] = 2 := by
    rw [foldCount, List.map_singleton, letters, foldCell_letters]
    rfl
  have hfield : ∀ w i, ∀ cell, [letters limit, letters 1][i]? = some cell →
      foldedField palette w 1 [letters (limit + 1)] i 0 = filled palette w 1 0 cell := by
    intro w i cell hcell
    have hfold : foldCell (letters (limit + 1)) = [letters limit, letters 1] :=
      foldCell_letters .plain
    rw [foldedField, List.map_singleton, hfold, List.getD_cons_zero, hcell]
  simp only [text, lines_letters, hcount, if_neg Nat.one_ne_zero, List.flatMap_singleton]
  rw [if_neg fun h => hwide (h _ (List.mem_singleton_self _)), folded, hfoldCount, List.range_one]
  simp only [List.flatMap_singleton]
  rw [List.range_succ, List.range_one, List.flatMap_append, List.flatMap_singleton,
    List.flatMap_singleton, hfield _ 0 _ rfl, hfield _ 1 _ rfl, trimEnd_filled, trimEnd_filled,
    List.append_assoc]
  rfl

end Layout

/-! ## The table -/

/-- What steps build is printed as its layout says. -/
theorem Table.session_eq_text (palette : Palette) (columns : Nat) (steps : List Step) :
    session palette .working columns steps = .ok (Layout.text palette columns (rows steps)) := by
  rw [← render_eq_text]
  exact (delivers_write palette columns (rows steps)).working

/-- **A table is laid out by positions.** Whatever steps build a table, it has
the rows that they end, and what is printed are the lines of those rows, with
every column as wide as its widest text and a gap between each two. That no
column is wider than 65535 matters only to tables with such a text. -/
theorem session_eq_layout (palette : Palette) (columns : Nat) (steps : List Step) :
    ∃ rows staged, steps = stepsOf rows staged ∧
      session palette .working columns steps = .ok (Layout.text palette columns rows) ∧
      ((∀ line ∈ Layout.lines columns rows, ∀ cell ∈ line, width cell.text ≤ 65535) →
        Layout.text palette columns rows = Layout.unfolded palette columns rows) := by
  obtain ⟨rs, staged, rfl⟩ := exists_eq_stepsOf steps
  refine ⟨rs, staged, rfl, ?_, Layout.text_eq_unfolded palette⟩
  rw [session_eq_text, rows_stepsOf]

/-- A text of 65536 letters does not stay on one line. -/
theorem session_ne_unfolded :
    session .colored .working 0 (stepsOf [[Layout.letters 65536]] []) ≠
      .ok (Layout.unfolded .colored 0 [[Layout.letters 65536]]) := by
  have hprinted : session .colored .working 0 (stepsOf [[Layout.letters 65536]] []) =
      .ok (List.replicate limit 'a' ++ ['\n', 'a', '\n']) := by
    rw [session_eq_text, rows_stepsOf]
    exact congrArg Except.ok (Layout.text_letters .colored)
  have hclaimed : Layout.unfolded .colored 0 [[Layout.letters 65536]] =
      List.replicate limit 'a' ++ ['a', '\n'] := by
    have hlength : 65536 = limit + 1 := rfl
    rw [Layout.unfolded_letters, hlength, List.replicate_succ', List.append_assoc]
    rfl
  rw [hprinted, hclaimed]
  intro h
  injection h with h
  rw [List.append_cancel_left_eq] at h
  cases h

end TargetHelp
