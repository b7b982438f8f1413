import Mathlib.Data.List.Forall2
import TargetHelp.Proofs.ControlSequences
import TargetHelp.Proofs.Pieces
import TargetHelp.Proofs.TableLayout
import TargetHelp.Proofs.Widths

/-!
# Colours move nothing

The colour of a cell is written into the same line as its text, around the
spaces that fill it up, and yet it moves nothing. Built by the same steps but
for the colours, two tables have the same lines but for the colours
(`Table.lines_uncolored`), and so the same widths. A field, read without control
sequences, is the field of the cell without its colour, and so of every printed
line the same is seen (`Table.map_seen_printedLines`).

The fields before the last column are filled up to their columns
(`Layout.aligned`). On a line that is folded, this needs a second look: where
the cells beside it go on, a cell without a part left is as wide as a column may
be, and not wider, so what follows is not aligned (`session_ne_aligned`).
-/

namespace TargetHelp

open Table Text

/-! ## Tables without colours -/

/-- A cell without its colour. -/
def Cell.uncolored (cell : Cell) : Cell := { cell with color := .plain }

/-- A row without its colours. -/
def Row.uncolored (row : Row) : Row := row.map Cell.uncolored

namespace Table

/-- A step that builds the same without colours. -/
def Step.uncolored : Step → Step
  | .cell c => .cell c.uncolored
  | .endRow => .endRow

theorem rowsFrom_uncolored (staged : Row) (steps : List Step) :
    rowsFrom staged.uncolored (steps.map Step.uncolored) =
      (rowsFrom staged steps).map Row.uncolored := by
  induction steps generalizing staged with
  | nil => rfl
  | cons step steps ih =>
    cases step with
    | endRow => exact congrArg (staged.uncolored :: ·) (ih [])
    | cell c =>
      have hstaged : Row.uncolored (staged ++ [c]) = staged.uncolored ++ [c.uncolored] :=
        List.map_append
      rw [List.map_cons, Step.uncolored, rowsFrom, rowsFrom, ← hstaged, ih]

/-- Steps without colours build the rows without colours. -/
theorem rows_uncolored (steps : List Step) :
    rows (steps.map Step.uncolored) = (rows steps).map Row.uncolored := rowsFrom_uncolored [] steps

end Table

theorem Cell.piece_uncolored (cell : Cell) (k : Nat) :
    cell.uncolored.piece k = (cell.piece k).uncolored := by
  simp only [Cell.piece, Cell.uncolored]
  cases (Text.lines cell.text)[k]? <;> rfl

namespace Table

theorem lines_uncolored (columns : Nat) (rows : List Row) :
    Layout.lines columns (rows.map Row.uncolored) =
      (Layout.lines columns rows).map (·.map Cell.uncolored) := by
  have hrow : ∀ row : Row, Row.lines columns row.uncolored =
      (Row.lines columns row).map (·.map Cell.uncolored) := by
    intro row
    have hheight : row.uncolored.height = row.height := by
      rw [Row.height, Row.height, Row.uncolored, List.map_map]
      rfl
    have hpieces : ∀ k, row.uncolored.map (·.piece k) =
        (row.map (·.piece k)).map Cell.uncolored := by
      intro k
      rw [Row.uncolored, List.map_map, List.map_map]
      exact List.map_congr_left fun cell _ => cell.piece_uncolored k
    rw [Row.lines, Row.lines, hheight, List.map_map]
    refine List.map_congr_left fun k _ => ?_
    rw [Function.comp_apply, List.map_append, List.map_replicate, hpieces, Row.uncolored,
      List.length_map]
    rfl
  rw [← Layout.lines_eq, ← Layout.lines_eq, lines, lines, List.flatMap_map, List.map_flatMap]
  exact List.flatMap_congr fun row _ => hrow row

theorem columnCount_uncolored (ls : List (List Cell)) :
    Layout.columnCount (ls.map (·.map Cell.uncolored)) = Layout.columnCount ls := by
  rw [Layout.columnCount, Layout.columnCount, List.map_map]
  simp [Function.comp_def]

/-- Colours do not count for the width of a column. -/
theorem measure_uncolored (ls : List (List Cell)) :
    Layout.measure (ls.map (·.map Cell.uncolored)) = Layout.measure ls := by
  have hcell : ∀ (line : List Cell) (j : Nat),
      ((line.map Cell.uncolored).getD j .empty).text = (line.getD j .empty).text := by
    intro line j
    have hgetD := congrArg Cell.text (List.getD_map line .empty (n := j) Cell.uncolored)
    exact hgetD
  funext j
  rw [Layout.measure, Layout.measure, Layout.widest, Layout.widest, List.map_map]
  simp only [Function.comp_def, hcell]

/-- Nor do they matter to where a line is folded. -/
theorem foldLine_uncolored (columns : Nat) (line : List Cell) :
    foldLine columns (line.map Cell.uncolored) =
      (foldLine columns line).map (·.map (Option.map Cell.uncolored)) := by
  have hcell : ∀ cell : Cell, foldCell cell.uncolored = (foldCell cell).map Cell.uncolored := by
    intro cell
    by_cases h : width cell.text ≤ limit
    · have h' : width cell.uncolored.text ≤ limit := h
      rw [foldCell, foldCell, if_pos h, if_pos h']
      rfl
    · have h' : ¬ width cell.uncolored.text ≤ limit := h
      rw [foldCell, foldCell, if_neg h, if_neg h', List.map_map]
      rfl
  have hpieces : (line.map Cell.uncolored).map foldCell =
      (line.map foldCell).map (·.map Cell.uncolored) := by
    rw [List.map_map, List.map_map]
    exact List.map_congr_left fun cell _ => hcell cell
  simp only [foldLine, hpieces, List.map_map, List.length_map]
  simp [Function.comp_def, List.getElem?_map]

/-! ## Lines as they are printed -/

/-- The lines that are printed in `n` columns of these widths, one by one. -/
def printedLines (palette : Palette) (w : Nat → Nat) (n : Nat) (ls : List (List Cell)) :
    List Text :=
  (ls.flatMap (foldLine n)).map fun line => trimEnd ((List.range n).flatMap fun j =>
    field palette (w j) (if j + 1 = n then 0 else gap) (line.getD j none))

theorem print_eq_printedLines (palette : Palette) (w : Nat → Nat) (n : Nat)
    (ls : List (List Cell)) :
    print palette ((List.range n).map w) ls = printedLines palette w n ls := by
  simp only [print, printedLines, fields_map_range, List.length_map, List.length_range]

/-- A table without columns has no lines to print. -/
theorem text_eq_printedLines (palette : Palette) (columns : Nat) (rows : List Row) :
    Layout.text palette columns rows =
      (printedLines palette (Layout.measure (Layout.lines columns rows))
        (Layout.columnCount (Layout.lines columns rows)) (Layout.lines columns rows)).flatMap
          (· ++ ['\n']) := by
  rw [← render_eq_text, render, Layout.lines_eq, layOut]
  split
  · next hwidths =>
    rw [columnWidths, List.map_eq_nil_iff, List.range_eq_nil, Layout.columnCount_eq] at hwidths
    have hfold : (Layout.lines columns rows).flatMap (foldLine 0) = [] := by
      rw [List.flatMap_eq_nil_iff]
      intro line hline
      have hlength := Layout.length_le_columnCount hline
      rw [hwidths, Nat.le_zero, List.length_eq_zero_iff] at hlength
      rw [hlength]
      rfl
    rw [hwidths, printedLines, hfold]
    rfl
  · rw [columnWidths, print_eq_printedLines, Layout.columnCount_eq, Layout.columnWidth_eq]

/-- What the lines of some rows hold, the rows hold, but for newlines. -/
theorem exists_of_mem_lines {columns : Nat} {rows : List Row} {line : List Cell} {cell : Cell}
    {c : Char} (hline : line ∈ Layout.lines columns rows) (hcell : cell ∈ line)
    (hc : c ∈ cell.text) : c ≠ '\n' ∧ ∃ row ∈ rows, ∃ whole ∈ row, c ∈ whole.text := by
  obtain ⟨row, hrow, hline⟩ := List.mem_flatMap.mp hline
  obtain ⟨k, -, rfl⟩ := List.mem_map.mp hline
  rcases List.mem_append.mp hcell with hempty | hpiece
  · rw [List.eq_of_mem_replicate hempty] at hc
    cases hc
  · obtain ⟨whole, hwhole, rfl⟩ := List.mem_map.mp hpiece
    rw [Cell.piece] at hc
    split at hc
    · next piece hget =>
      obtain ⟨hmem, hne⟩ := mem_piece (List.mem_of_getElem? hget) hc
      exact ⟨hne, row, hrow, whole, hwhole, hmem⟩
    · cases hc

/-- What a cell does not hold, the cells that it is folded into do not hold, but
for spaces. -/
theorem not_mem_of_mem_foldCell {c : Char} (hspace : c ≠ ' ') {cell part : Cell}
    (h : c ∉ cell.text) (hpart : part ∈ foldCell cell) : c ∉ part.text := by
  rw [foldCell] at hpart
  split at hpart
  · rw [List.mem_singleton.mp hpart]
    exact h
  · obtain ⟨text, htext, rfl⟩ := List.mem_map.mp hpart
    have hne : ∀ d ∈ cell.text, d ≠ c := fun d hd heq => h (heq ▸ hd)
    exact fun hc => forall_mem_fold (P := (· ≠ c)) hspace.symm limit hne text htext c hc rfl

theorem not_mem_of_mem_foldLine {c : Char} (hspace : c ≠ ' ') {columns : Nat} {line : List Cell}
    (h : ∀ cell ∈ line, c ∉ cell.text) {parts : List (Option Cell)}
    (hparts : parts ∈ foldLine columns line) {part : Cell} (hpart : some part ∈ parts) :
    c ∉ part.text := by
  obtain ⟨k, -, rfl⟩ := List.mem_map.mp hparts
  obtain ⟨pieces, hpieces, hget⟩ := List.mem_map.mp hpart
  obtain ⟨cell, hcell, rfl⟩ := List.mem_map.mp hpieces
  exact not_mem_of_mem_foldCell hspace (h cell hcell) (List.mem_of_getElem? hget)

variable {p q : Palette} (hp : p.IsControl)

/-- A cell of a line stands in one of its columns. -/
theorem some_mem_of_getD {line : List (Option Cell)} {j : Nat} {cell : Cell}
    (h : line.getD j none = some cell) : some cell ∈ line := by
  rcases Nat.lt_or_ge j line.length with hj | hj
  · rw [List.getD_eq_getElem _ _ hj] at h
    exact h ▸ List.getElem_mem hj
  · rw [List.getD_eq_default _ _ hj] at h
    cases h

/-- A character that is neither in a cell nor a space is not in what the cell
is filled up to. -/
theorem not_mem_filling {c : Char} (hc : c ≠ ' ') {t : Text} (h : c ∉ t) (m n : Nat) :
    c ∉ t ++ List.replicate m ' ' ++ List.replicate n ' ' := by
  simp only [List.mem_append, List.mem_replicate, not_or, not_and]
  exact ⟨⟨h, fun _ => hc⟩, fun _ => hc⟩

include hp in
/-- No field holds a newline. -/
theorem not_mem_field (w space : Nat) {cell? : Option Cell}
    (h : ∀ cell, cell? = some cell → '\n' ∉ cell.text) : '\n' ∉ field p w space cell? := by
  cases cell? with
  | none => exact fun hmem => absurd (List.eq_of_mem_replicate hmem) (by decide)
  | some cell =>
    exact hp.not_mem_paint (isPlain_of_isBlank (by decide)) _
      (not_mem_filling (by decide) (h cell rfl) _ _)

include hp in
/-- A field is read like the field of the cell without its colour. -/
theorem uncolored_field_append (w space : Nat) {cell? : Option Cell}
    (h : ∀ cell, cell? = some cell → '\x1b' ∉ cell.text) (b : Text) :
    Text.uncolored (field p w space cell? ++ b) =
      field q w space (cell?.map Cell.uncolored) ++ Text.uncolored b := by
  cases cell? with
  | none =>
    exact uncolored_append_of_not_mem
      (fun hmem => absurd (List.eq_of_mem_replicate hmem) (by decide)) b
  | some cell =>
    exact uncolored_paint_append hp cell.color (not_mem_filling (by decide) (h cell rfl) _ _) b

include hp in
/-- What is printed for lines without newlines are these lines. -/
theorem not_mem_printedLines {w : Nat → Nat} {n : Nat} {ls : List (List Cell)}
    (h : ∀ line ∈ ls, ∀ cell ∈ line, '\n' ∉ cell.text) :
    ∀ line ∈ printedLines p w n ls, '\n' ∉ line := by
  intro line hline hmem
  obtain ⟨parts, hparts, rfl⟩ := List.mem_map.mp hline
  obtain ⟨whole, hwhole, hparts⟩ := List.mem_flatMap.mp hparts
  obtain ⟨j, -, hmem⟩ := List.mem_flatMap.mp (mem_of_mem_trimEnd hmem)
  refine not_mem_field hp _ _ (fun cell hcell => ?_) hmem
  exact not_mem_of_mem_foldLine (by decide) (h whole hwhole) hparts (some_mem_of_getD hcell)

include hp in
/-- Of printed lines, the same is seen as of those without colours. -/
theorem map_seen_printedLines {w : Nat → Nat} {n : Nat} {ls : List (List Cell)}
    (h : ∀ line ∈ ls, ∀ cell ∈ line, '\x1b' ∉ cell.text) :
    (printedLines p w n ls).map Text.seen = printedLines q w n (ls.map (·.map Cell.uncolored)) := by
  have hfold : (ls.map (·.map Cell.uncolored)).flatMap (foldLine n) =
      (ls.flatMap (foldLine n)).map (·.map (Option.map Cell.uncolored)) := by
    rw [List.flatMap_map, List.map_flatMap]
    exact List.flatMap_congr fun line _ => foldLine_uncolored n line
  rw [printedLines, printedLines, hfold, List.map_map, List.map_map]
  refine List.map_congr_left fun parts hparts => ?_
  obtain ⟨whole, hwhole, hparts⟩ := List.mem_flatMap.mp hparts
  have hescape : ∀ cell, some cell ∈ parts → '\x1b' ∉ cell.text := fun cell hcell =>
    not_mem_of_mem_foldLine (by decide) (h whole hwhole) hparts hcell
  rw [Function.comp_apply, Function.comp_apply, seen_trimEnd, Text.seen]
  refine congrArg trimEnd (Text.read_flatMap Text.uncolored_nil fun j _ b => ?_)
  have hgetD := List.getD_map parts none (n := j) (Option.map Cell.uncolored)
  rw [Option.map_none] at hgetD
  rw [hgetD]
  exact uncolored_field_append hp _ _ (fun cell hcell => hescape cell (some_mem_of_getD hcell)) b

/-! ## Two tables -/

/-- The rows of a table hold cells of its steps. -/
theorem cell_mem_of_mem_rows {steps : List Step} {row : Row} {cell : Cell}
    (hrow : row ∈ rows steps) (hcell : cell ∈ row) : .cell cell ∈ steps := by
  obtain ⟨rs, staged, rfl⟩ := exists_eq_stepsOf steps
  rw [rows_stepsOf] at hrow
  exact List.mem_append_left _ (List.mem_flatMap.mpr
    ⟨row, hrow, List.mem_append_left _ (List.mem_map_of_mem hcell)⟩)

/-- The lines of a table hold no character that its steps do not hold. -/
theorem not_mem_lines {columns : Nat} {steps : List Step} {c : Char}
    (h : ∀ cell, .cell cell ∈ steps → c ∉ cell.text) :
    ∀ line ∈ Layout.lines columns (rows steps), ∀ cell ∈ line, c ∉ cell.text := by
  intro line hline cell hcell hc
  obtain ⟨-, row, hrow, whole, hwhole, hc⟩ := exists_of_mem_lines hline hcell hc
  exact h whole (cell_mem_of_mem_rows hrow hwhole) hc

end Table

/-! ## The widths of the fields -/

namespace Layout

/-- A cell is filled up to the width of its column, whatever its colour. -/
theorem width_uncolored_filled {p : Palette} (hp : p.IsControl) (w : Nat → Nat) (n j : Nat)
    {cell : Cell} (h : '\x1b' ∉ cell.text) :
    width (Text.uncolored (filled p w n j cell)) =
      max (w j) (width cell.text) + if j + 1 = n then 0 else 4 := by
  have huncolored := uncolored_paint_append hp cell.color
    (not_mem_filling (by decide) h (w j - width cell.text) (if j + 1 = n then 0 else 4)) []
  rw [List.append_nil] at huncolored
  rw [filled, huncolored, Text.uncolored_nil, List.append_nil, width_append_spaces,
    width_append_spaces]
  omega

/-- Spaces are as wide as there are. -/
theorem width_uncolored_spaces (k : Nat) : width (Text.uncolored (List.replicate k ' ')) = k := by
  have hescape : '\x1b' ∉ List.replicate k ' ' := fun hmem =>
    absurd (List.eq_of_mem_replicate hmem) (by decide)
  have huncolored := uncolored_append_of_not_mem hescape []
  rw [List.append_nil, Text.uncolored_nil, List.append_nil] at huncolored
  rw [huncolored, width_spaces]

/-- The cell of a line in some column is one of its cells, or an empty one. -/
theorem forall_getD {P : Cell → Prop} {line : List Cell} (h : ∀ cell ∈ line, P cell)
    (hempty : P .empty) (j : Nat) : P (line.getD j .empty) := by
  rcases Nat.lt_or_ge j line.length with hlt | hge
  · rw [List.getD_eq_getElem _ _ hlt]
    exact h _ (List.getElem_mem hlt)
  · rw [List.getD_eq_default _ _ hge]
    exact hempty

/-- The parts of a cell are those of one of the cells of the line. -/
theorem exists_mem_foldCell {line : List Cell} {i j : Nat} {part : Cell}
    (h : ((line.map foldCell).getD j [])[i]? = some part) : ∃ cell ∈ line, part ∈ foldCell cell := by
  have hpart := List.mem_of_getElem? h
  rcases Nat.lt_or_ge j line.length with hlt | hge
  · rw [List.getD_eq_getElem _ _ (by rwa [List.length_map]), List.getElem_map] at hpart
    exact ⟨_, List.getElem_mem hlt, hpart⟩
  · rw [List.getD_eq_default _ _ (by rwa [List.length_map])] at hpart
    cases hpart

/-- The fields before the last column of some lines are as wide as their columns
and the gap. Only on lines that are folded are they not: there, a part may be
wider than its column, and where no part is left, a field is no wider than a
column may be. -/
structure Aligned (p : Palette) (w : Nat → Nat) (n : Nat) (ls : List (List Cell)) : Prop where
  /-- on a line that is not folded -/
  field : ∀ line ∈ ls, (∀ cell ∈ line, width cell.text ≤ 65535) → ∀ j, j + 1 < n →
    width (Text.uncolored (field p w n line j)) = w j + 4
  /-- on a line that is folded, with a part of the cell -/
  part : ∀ line ∈ ls, ∀ i j part, j + 1 < n → ((line.map foldCell).getD j [])[i]? = some part →
    width (Text.uncolored (foldedField p w n line i j)) = max (w j) (width part.text) + 4
  /-- on a line that is folded, without a part of the cell -/
  filler : ∀ line ∈ ls, ∀ i j, j + 1 < n → ((line.map foldCell).getD j [])[i]? = none →
    width (Text.uncolored (foldedField p w n line i j)) = min 65535 (w j + 4)

theorem aligned {p : Palette} (hp : p.IsControl) {ls : List (List Cell)}
    (hescape : ∀ line ∈ ls, ∀ cell ∈ line, '\x1b' ∉ cell.text) :
    Aligned p (measure ls) (columnCount ls) ls := by
  constructor
  · intro line hline hfits j hj
    have hcell := forall_getD (hescape line hline) List.not_mem_nil j
    have hwidth := forall_getD hfits (Nat.zero_le _) j
    have hwidest := width_getD_le_widest hline j
    have hmeasure : width (line.getD j .empty).text ≤ measure ls j := by
      rw [measure]
      omega
    rw [field, width_uncolored_filled hp _ _ _ hcell, if_neg (Nat.ne_of_lt hj),
      Nat.max_eq_left hmeasure]
  · intro line hline i j part hj hpart
    obtain ⟨cell, hcell, hmem⟩ := exists_mem_foldCell hpart
    have hpart' := not_mem_of_mem_foldCell (by decide) (hescape line hline cell hcell) hmem
    rw [foldedField, hpart]
    simp only
    rw [width_uncolored_filled hp _ _ _ hpart', if_neg (Nat.ne_of_lt hj)]
  · intro line hline i j hj hnone
    rw [foldedField, hnone]
    simp only
    rw [width_uncolored_spaces, if_neg (Nat.ne_of_lt hj)]

end Layout

/-! ## Two tables -/

namespace Table

/-- The lines of a printed table are those it is printed by, and an empty one. -/
theorem lines_text {p : Palette} (hp : p.IsControl) (columns : Nat) (rows : List Row) :
    Text.lines (Layout.text p columns rows) =
      printedLines p (Layout.measure (Layout.lines columns rows))
        (Layout.columnCount (Layout.lines columns rows)) (Layout.lines columns rows) ++ [[]] := by
  rw [text_eq_printedLines]
  exact Text.lines_flatMap_newline (not_mem_printedLines hp fun line hline cell hcell hc =>
    (exists_of_mem_lines hline hcell hc).1 rfl)

/-- Tables of the same steps but for the colours have the same lines but for
the colours. -/
theorem lines_map_uncolored {steps steps' : List Step}
    (h : steps.map Step.uncolored = steps'.map Step.uncolored) (columns : Nat) :
    (Layout.lines columns (rows steps)).map (·.map Cell.uncolored) =
      (Layout.lines columns (rows steps')).map (·.map Cell.uncolored) := by
  rw [← lines_uncolored, ← rows_uncolored, h, rows_uncolored, lines_uncolored]

/-- Steps that are the same but for the colours hold the same texts. -/
theorem exists_cell_mem_of_uncolored {steps steps' : List Step}
    (h : steps.map Step.uncolored = steps'.map Step.uncolored) {cell : Cell}
    (hcell : .cell cell ∈ steps') : ∃ cell', .cell cell' ∈ steps ∧ cell'.text = cell.text := by
  have hmem : (Step.cell cell).uncolored ∈ steps.map Step.uncolored :=
    h ▸ List.mem_map_of_mem hcell
  obtain ⟨step, hstep, heq⟩ := List.mem_map.mp hmem
  cases step with
  | endRow => cases heq
  | cell cell' =>
    refine ⟨cell', hstep, ?_⟩
    injection heq with heq
    have htext := congrArg Cell.text heq
    exact htext

end Table

/-- **Colours move nothing.** Two tables that are built by the same steps but
for the colours of their cells are printed on the same number of lines, and of
each two lines the same is seen. Their columns are of the same widths, and the
fields before the last column are filled up to these, whatever is coloured. -/
theorem colors_move_nothing {p q : Palette} (hp : p.IsControl) (hq : q.IsControl) (columns : Nat)
    {steps steps' : List Step} (hsteps : steps.map Step.uncolored = steps'.map Step.uncolored)
    (hescape : ∀ cell, .cell cell ∈ steps → '\x1b' ∉ cell.text) :
    let ls := Layout.lines columns (rows steps)
    let ls' := Layout.lines columns (rows steps')
    let w := Layout.measure ls
    let n := Layout.columnCount ls
    let out := Layout.text p columns (rows steps)
    let out' := Layout.text q columns (rows steps')
    session p .working columns steps = .ok out ∧ session q .working columns steps' = .ok out' ∧
      List.Forall₂ (fun line line' => Text.seen line = Text.seen line')
        (Text.lines out) (Text.lines out') ∧
      Layout.columnCount ls' = n ∧ Layout.measure ls' = w ∧
      Layout.Aligned p w n ls ∧ Layout.Aligned q w n ls' := by
  intro ls ls' w n out out'
  have hescape' : ∀ cell, .cell cell ∈ steps' → '\x1b' ∉ cell.text := by
    intro cell hcell
    obtain ⟨cell', hcell', htext⟩ := exists_cell_mem_of_uncolored hsteps hcell
    exact htext ▸ hescape cell' hcell'
  have huncolored : ls.map (·.map Cell.uncolored) = ls'.map (·.map Cell.uncolored) :=
    lines_map_uncolored hsteps columns
  have hcount : Layout.columnCount ls' = n := by
    rw [← columnCount_uncolored, ← huncolored, columnCount_uncolored]
  have hmeasure : Layout.measure ls' = w := by
    rw [← measure_uncolored, ← huncolored, measure_uncolored]
  have hseen : (Text.lines out).map Text.seen = (Text.lines out').map Text.seen := by
    have hlines : Text.lines out = printedLines p w n ls ++ [[]] := lines_text hp columns _
    have hlines' : Text.lines out' = printedLines q w n ls' ++ [[]] := by
      rw [← hmeasure, ← hcount]
      exact lines_text hq columns _
    rw [hlines, hlines', List.map_append, List.map_append,
      map_seen_printedLines (q := .colorless) hp (not_mem_lines hescape),
      map_seen_printedLines (q := .colorless) hq (not_mem_lines hescape'), huncolored]
  refine ⟨session_eq_text p columns steps, session_eq_text q columns steps', ?_, hcount, hmeasure,
    ?_, ?_⟩
  · rw [← List.forall₂_eq_eq_eq, List.forall₂_map_left_iff, List.forall₂_map_right_iff] at hseen
    exact hseen
  · exact Layout.aligned hp (not_mem_lines hescape)
  · rw [← hmeasure, ← hcount]
    exact Layout.aligned hq (not_mem_lines hescape')

/-- A green cell and a blue one, beside the same cells without colours. -/
theorem colors_move_nothing_twoColors :
    let steps := stepsOf [[⟨.green, ['a']⟩, ⟨.blue, ['b']⟩]] []
    let steps' := stepsOf [[⟨.plain, ['a']⟩, ⟨.plain, ['b']⟩]] []
    steps.map Step.uncolored = steps'.map Step.uncolored ∧ steps ≠ steps' ∧
      List.Forall₂ (fun line line' => Text.seen line = Text.seen line')
        (Text.lines (Layout.text .colored 0 (rows steps)))
        (Text.lines (Layout.text .colored 0 (rows steps'))) := by
  intro steps steps'
  have hsteps : steps.map Step.uncolored = steps'.map Step.uncolored := by decide
  have hescape : ∀ cell, .cell cell ∈ steps → '\x1b' ∉ cell.text := by
    intro cell hcell
    simp only [steps, stepsOf] at hcell
    simp at hcell
    rcases hcell with rfl | rfl <;> decide
  obtain ⟨-, -, hseen, -⟩ := colors_move_nothing Palette.isControl_colored
    Palette.isControl_colored 0 hsteps hescape
  exact ⟨hsteps, by decide, hseen⟩

namespace Layout

/-- A row of letters that just fit, beside letters that do not. -/
def unevenRow : Row := [letters limit, letters (limit + 1)]

theorem lines_unevenRow : lines 0 [unevenRow] = [unevenRow] := by
  refine lines_zero fun row hrow cell hcell => ?_
  rw [List.mem_singleton.mp hrow] at hcell
  rcases List.mem_pair.mp hcell with rfl | rfl
  · exact newline_not_mem_letters _
  · exact newline_not_mem_letters _

theorem widest_unevenRow : widest [unevenRow] 0 = limit := by
  rw [widest, List.map_singleton, List.max?_singleton, Option.getD_some, unevenRow,
    List.getD_cons_zero]
  exact width_replicate limit

/-- The letters that do not fit end on a line of their own, behind as many spaces
as a column may take. -/
theorem mem_lines_text_unevenRow {p : Palette} (hp : p.IsControl) :
    List.replicate limit ' ' ++ ['a'] ∈ Text.lines (text p 0 [unevenRow]) := by
  have hcount : columnCount [unevenRow] = 2 := rfl
  have hpieces : unevenRow.map foldCell = [[letters limit], [letters limit, letters 1]] := by
    have hfits : foldCell (letters limit) = [letters limit] :=
      if_pos (Nat.le_of_eq (width_replicate limit))
    have hfold : foldCell (letters (limit + 1)) = [letters limit, letters 1] :=
      foldCell_letters .plain
    rw [unevenRow, List.map_cons, List.map_singleton, hfits, hfold]
  have hfold : [none, some (letters 1)] ∈ [unevenRow].flatMap (foldLine 2) := by
    rw [List.flatMap_singleton, foldLine, hpieces]
    exact List.mem_map.mpr ⟨1, by decide, rfl⟩
  have hfiller : Table.field p (measure [unevenRow] 0) gap none = List.replicate limit ' ' := by
    rw [measure, widest_unevenRow]
    rfl
  have hpart : ∀ w, ∃ n, Table.field p w 0 (some (letters 1)) = ['a'] ++ List.replicate n ' ' :=
    fun w => ⟨w - width ['a'], List.append_nil _⟩
  rw [lines_text hp, lines_unevenRow, hcount]
  refine List.mem_append_left _ (List.mem_map.mpr ⟨_, hfold, ?_⟩)
  obtain ⟨n, hn⟩ := hpart (measure [unevenRow] 1)
  rw [List.range_succ, List.range_one, List.flatMap_append, List.flatMap_singleton,
    List.flatMap_singleton]
  change trimEnd (Table.field p (measure [unevenRow] 0) gap none ++
    Table.field p (measure [unevenRow] 1) 0 (some (letters 1))) = _
  rw [hfiller, hn, ← List.append_assoc, trimEnd_append_of_isBlank, trimEnd_concat (by decide)]
  intro c hc
  rw [List.eq_of_mem_replicate hc]
  decide

end Layout

/-- Where a cell that is folded stands beside one that just fits, the letters that
are left over do not stand in their column: the field in front of them is as wide
as a column may be, without the gap. -/
theorem session_ne_aligned :
    ∃ out, session .colored .working 0 (stepsOf [[Layout.letters 65535, Layout.letters 65536]] []) =
        .ok out ∧
      List.replicate 65535 ' ' ++ ['a'] ∈ Text.lines out ∧
      width (List.replicate 65535 ' ') ≠
        Layout.widest (Layout.lines 0 [[Layout.letters 65535, Layout.letters 65536]]) 0 + 4 := by
  have hrow : [Layout.letters 65535, Layout.letters 65536] = Layout.unevenRow := rfl
  have hlimit : 65535 = limit := rfl
  have hspaces := width_append_spaces [] limit
  rw [List.nil_append] at hspaces
  rw [hrow, hlimit]
  refine ⟨Layout.text .colored 0 [Layout.unevenRow], ?_,
    Layout.mem_lines_text_unevenRow Palette.isControl_colored, ?_⟩
  · rw [session_eq_text, rows_stepsOf]
  · rw [hspaces, Layout.lines_unevenRow, Layout.widest_unevenRow]
    decide

end TargetHelp
