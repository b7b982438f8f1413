import TargetHelp.Proofs.Colors
import TargetHelp.Proofs.Encoding
import TargetHelp.Proofs.FoldedTexts

/-!
# Rows that are added later

Rows that are added to a table may change the width of every column and the
number of columns, and so which column is the last. All of this only moves
spaces: what a line shows without its spaces is what its cells hold, one after
the other (`Table.spaceless_trimEnd_fields`), and this does not depend on the
rest of the table. So the lines that are printed for some rows are, but for
spaces, the first that are printed for these rows and any others.

One thing is left that the number of columns decides. A line whose cells hold
nothing but spaces, too many for any column, is folded onto no lines at all
(`Table.Vanishes`). Only when columns are added that it lacks, these take a line,
which is empty (`Table.bareLines_of_vanishes`).
-/

namespace TargetHelp

open Table Text

namespace Table

/-! ## Lines without their spaces -/

variable (p : Palette)

/-- A field without spaces: what the cell holds, in its colour. -/
def bare : Option Cell → Text
  | some cell => spaceless (p.paint cell.color cell.text)
  | none => []

/-- Widths and gaps are spaces. -/
theorem spaceless_field (w space : Nat) (cell? : Option Cell) :
    spaceless (field p w space cell?) = bare p cell? := by
  cases cell? with
  | none => exact spaceless_replicate _
  | some cell =>
    rw [field, bare]
    cases cell.color <;> simp [Palette.paint]

/-- A line without spaces: its fields one after the other. -/
def bareLine (line : List (Option Cell)) : Text := trimEnd (line.flatMap (bare p))

/-- Without spaces, a line does not depend on the columns. -/
theorem spaceless_trimEnd_fields (w : Nat → Nat) {n : Nat} {line : List (Option Cell)}
    (h : line.length ≤ n) :
    spaceless (trimEnd ((List.range n).flatMap fun j =>
      field p (w j) (if j + 1 = n then 0 else gap) (line.getD j none))) = bareLine p line := by
  rw [spaceless_trimEnd, spaceless_flatMap, bareLine,
    ← flatMap_range_getD (g := bare p) (d := none) rfl h]
  simp only [spaceless_field]

/-- The lines that a line is folded into in a table with `n` columns, without
spaces. -/
def bareLines (n : Nat) (line : List Cell) : List Text := (foldLine n line).map (bareLine p)

theorem length_of_mem_foldLine {n : Nat} {line : List Cell} {parts : List (Option Cell)}
    (h : parts ∈ foldLine n line) : parts.length = line.length := by
  obtain ⟨k, -, rfl⟩ := List.mem_map.mp h
  rw [List.length_map, List.length_map]

theorem map_spaceless_printedLines (w : Nat → Nat) {n : Nat} {ls : List (List Cell)}
    (h : ∀ line ∈ ls, line.length ≤ n) :
    (printedLines p w n ls).map spaceless = ls.flatMap (bareLines p n) := by
  have hbare : ∀ line, bareLines p n line = (foldLine n line).map (bareLine p) := fun _ => rfl
  rw [printedLines, List.map_map, List.flatMap_congr fun line _ => hbare line, ← List.map_flatMap]
  refine List.map_congr_left fun parts hparts => ?_
  obtain ⟨line, hline, hparts⟩ := List.mem_flatMap.mp hparts
  refine spaceless_trimEnd_fields p w ?_
  rw [length_of_mem_foldLine hparts]
  exact h line hline

/-- The lines of an output, without their spaces. -/
def spacelessLines (out : Text) : List Text := (Text.lines (spaceless out)).dropLast

variable {p}

/-- The lines of a table are those that its lines are folded into. -/
theorem spacelessLines_text (hp : p.IsControl) (columns : Nat) (rows : List Row) :
    spacelessLines (Layout.text p columns rows) = (Layout.lines columns rows).flatMap
      (bareLines p (Layout.columnCount (Layout.lines columns rows))) := by
  have hnewline : ∀ l : Text, spaceless (l ++ ['\n']) = spaceless l ++ ['\n'] := fun l =>
    spaceless_append l ['\n']
  have hmem : ∀ line ∈ printedLines p (Layout.measure (Layout.lines columns rows))
      (Layout.columnCount (Layout.lines columns rows)) (Layout.lines columns rows),
      '\n' ∉ line := not_mem_printedLines hp fun line hline cell hcell hc =>
    (exists_of_mem_lines hline hcell hc).1 rfl
  rw [spacelessLines, text_eq_printedLines, spaceless_flatMap]
  simp only [hnewline]
  rw [← List.flatMap_map spaceless (· ++ ['\n']), Text.lines_flatMap_newline, List.dropLast_concat,
    map_spaceless_printedLines p _ fun line hline => Layout.length_le_columnCount hline]
  intro l hl hc
  obtain ⟨line, hline, rfl⟩ := List.mem_map.mp hl
  exact hmem line hline (List.mem_of_mem_filter hc)

/-! ## Lines that vanish -/

/-- A line is printed as no line at all in a table with `n` columns: there is a
cell in every column, each with nothing but spaces, and more of them than a
column may be wide. -/
def Vanishes (n : Nat) (line : List Cell) : Prop :=
  line ≠ [] ∧ n ≤ line.length ∧
    ∀ cell ∈ line, 65535 < cell.text.length ∧ ∀ c ∈ cell.text, c = ' '

instance (n : Nat) (line : List Cell) : Decidable (Vanishes n line) :=
  inferInstanceAs (Decidable (_ ∧ _))

/-- Only a cell of too many spaces has no parts. -/
theorem foldCell_eq_nil_iff {cell : Cell} :
    foldCell cell = [] ↔ 65535 < cell.text.length ∧ ∀ c ∈ cell.text, c = ' ' := by
  have hwidth : (∀ c ∈ cell.text, c = ' ') → width cell.text = cell.text.length := fun h => by
    rw [List.eq_replicate_iff.mpr ⟨rfl, h⟩, width_spaces, List.length_replicate]
  rw [foldCell]
  split
  · next hfits =>
    refine iff_of_false (List.cons_ne_nil _ _) ?_
    rintro ⟨hlong, hspaces⟩
    rw [hwidth hspaces] at hfits
    exact absurd hlong (Nat.not_lt.mpr hfits)
  · next hwide =>
    rw [List.map_eq_nil_iff, fold_eq_nil_iff]
    refine (and_iff_right_of_imp fun hspaces => ?_).symm
    rw [hwidth hspaces] at hwide
    exact Nat.not_le.mp hwide

/-- The most parts that a cell of a line has. -/
def partCount (line : List Cell) : Nat :=
  (line.map fun cell => (foldCell cell).length).max?.getD 0

theorem partCount_eq_zero_iff {line : List Cell} :
    partCount line = 0 ↔ ∀ cell ∈ line, foldCell cell = [] := by
  constructor
  · intro h cell hcell
    have hle := Layout.le_max?_getD
      (List.mem_map_of_mem (f := fun cell => (foldCell cell).length) hcell)
    rw [← partCount, h, Nat.le_zero] at hle
    exact List.length_eq_zero_iff.mp hle
  · intro h
    rw [partCount]
    cases hmax : (line.map fun cell => (foldCell cell).length).max? with
    | none => rfl
    | some m =>
      obtain ⟨cell, hcell, rfl⟩ := List.mem_map.mp (List.max?_mem hmax)
      exact List.length_eq_zero_iff.mpr (h cell hcell)

theorem Vanishes.partCount_eq_zero {n : Nat} {line : List Cell} (h : Vanishes n line) :
    partCount line = 0 :=
  partCount_eq_zero_iff.mpr fun cell hcell => foldCell_eq_nil_iff.mpr (h.2.2 cell hcell)

theorem foldCount_eq (n : Nat) (line : List Cell) :
    Layout.foldCount n line = max (if line.length < n then 1 else 0) (partCount line) := rfl

/-- A line that vanishes takes no line. -/
theorem foldLine_of_vanishes {n : Nat} {line : List Cell} (h : Vanishes n line) :
    foldLine n line = [] := by
  rw [Layout.foldLine_eq, foldCount_eq, h.partCount_eq_zero, if_neg (Nat.not_lt.mpr h.2.1)]
  rfl

/-- Columns that are added do not matter to a line that does not vanish. -/
theorem foldLine_of_not_vanishes {n n' : Nat} (hn : n ≠ 0) (hle : n ≤ n') {line : List Cell}
    (h : ¬ Vanishes n line) : foldLine n' line = foldLine n line := by
  rw [Layout.foldLine_eq, Layout.foldLine_eq, foldCount_eq, foldCount_eq]
  rcases Nat.lt_or_ge line.length n with hlacks | hfull
  · rw [if_pos hlacks, if_pos (Nat.lt_of_lt_of_le hlacks hle)]
  · have hne : line ≠ [] := List.ne_nil_of_length_pos (by omega)
    have hpos : partCount line ≠ 0 := fun h0 => h ⟨hne, hfull, fun cell hcell =>
      foldCell_eq_nil_iff.mp (partCount_eq_zero_iff.mp h0 cell hcell)⟩
    have hmax : ∀ k ≤ 1, max k (partCount line) = partCount line := fun k hk =>
      Nat.max_eq_right (by omega)
    rw [hmax _ (by split <;> omega), hmax _ (by split <;> omega)]

/-- To a line that vanishes, they add an empty line. -/
theorem bareLines_of_vanishes {n n' : Nat} {line : List Cell} (h : Vanishes n line)
    (hlt : line.length < n') : bareLines p n' line = [[]] := by
  have hnone : ((line.map foldCell).map (·[0]?)).flatMap (bare p) = [] := by
    rw [List.map_map, List.flatMap_map, List.flatMap_eq_nil_iff]
    intro cell hcell
    rw [Function.comp_apply, foldCell_eq_nil_iff.mpr (h.2.2 cell hcell)]
    rfl
  rw [bareLines, Layout.foldLine_eq, foldCount_eq, h.partCount_eq_zero, if_pos hlt]
  rw [Nat.max_eq_left (Nat.zero_le 1), List.range_one, List.map_singleton, List.map_singleton,
    bareLine, hnone]
  rfl

/-- The lines that a line is folded into when columns are added. -/
theorem bareLines_eq_ite {n n' : Nat} (hn : n ≠ 0) (hle : n ≤ n') {line : List Cell}
    (hlength : line.length ≤ n) :
    bareLines p n' line = if Vanishes n line ∧ n < n' then [[]] else bareLines p n line := by
  split
  · next h => exact bareLines_of_vanishes h.1 (Nat.lt_of_le_of_lt hlength h.2)
  · next h =>
    rcases Nat.eq_or_lt_of_le hle with rfl | hlt
    · rfl
    · rw [bareLines, foldLine_of_not_vanishes hn hle fun hv => h ⟨hv, hlt⟩, bareLines]

/-! ## Rows that are added -/

/-- What yields nothing can be left out. -/
theorem flatMap_filter_of_eq_nil {α β : Type*} {f : α → List β} {keep : α → Bool} {l : List α}
    (h : ∀ a ∈ l, ¬ keep a = true → f a = []) : (l.filter keep).flatMap f = l.flatMap f := by
  induction l with
  | nil => rfl
  | cons a l ih =>
    have hrest := ih fun b hb => h b (List.mem_cons_of_mem a hb)
    by_cases ha : keep a = true
    · rw [List.filter_cons_of_pos ha, List.flatMap_cons, List.flatMap_cons, hrest]
    · rw [List.filter_cons_of_neg ha, List.flatMap_cons, h a List.mem_cons_self ha, hrest,
        List.nil_append]

/-- Steps that are added end more rows. -/
theorem rowsFrom_prefix (staged : Row) (s e : List Step) :
    rowsFrom staged s <+: rowsFrom staged (s ++ e) := by
  induction s generalizing staged with
  | nil => exact List.nil_prefix
  | cons step s ih =>
    cases step with
    | cell c => exact ih (staged ++ [c])
    | endRow => exact (List.prefix_cons_inj staged).mpr (ih [])

/-- More rows have more lines. -/
theorem exists_lines_append (columns : Nat) (s e : List Step) :
    ∃ more, Layout.lines columns (rows (s ++ e)) = Layout.lines columns (rows s) ++ more := by
  obtain ⟨later, hlater⟩ := rowsFrom_prefix [] s e
  refine ⟨Layout.lines columns later, ?_⟩
  rw [rows, rows, ← hlater, Layout.lines, Layout.lines, Layout.lines, List.flatMap_append]

/-- More lines have no fewer columns. -/
theorem columnCount_le_append (ls more : List (List Cell)) :
    Layout.columnCount ls ≤ Layout.columnCount (ls ++ more) := by
  rw [← Layout.columnCount_eq, ← Layout.columnCount_eq, columnCount, columnCount,
    List.map_append, List.foldl_append, Layout.foldl_max (List.foldl ..)]
  exact Nat.le_max_left _ _

/-- What the lines of a table become when others are added: those that vanish
become empty lines, if there are more columns now, and all others stay. -/
theorem flatMap_ite_prefix (ls more : List (List Cell)) {n n' : Nat}
    (hn : Layout.columnCount ls = n) (hn' : Layout.columnCount (ls ++ more) = n') :
    (ls.flatMap fun line => if Vanishes n line ∧ n < n' then [[]] else bareLines p n line) <+:
      (ls ++ more).flatMap (bareLines p n') := by
  have hle : n ≤ n' := hn ▸ hn' ▸ columnCount_le_append ls more
  have hlength : ∀ line ∈ ls, line.length ≤ n := fun line hline =>
    hn ▸ Layout.length_le_columnCount hline
  rcases Nat.eq_zero_or_pos n with rfl | hpos
  · -- no line has a cell, and all of them are printed as no lines
    have hnil : ∀ line ∈ ls,
        (if Vanishes 0 line ∧ 0 < n' then [[]] else bareLines p 0 line) = [] := by
      intro line hline
      rw [List.length_eq_zero_iff.mp (Nat.le_zero.mp (hlength line hline)),
        if_neg fun h => h.1.1 rfl]
      rfl
    rw [List.flatMap_eq_nil_iff.mpr hnil]
    exact List.nil_prefix
  · rw [List.flatMap_append, List.flatMap_congr fun line hline =>
      (bareLines_eq_ite (Nat.ne_of_gt hpos) hle (hlength line hline)).symm]
    exact List.prefix_append _ _

/-- Where neither the columns nor their widths change, lines are printed in front
of those that are added. -/
theorem printedLines_prefix (p : Palette) {w w' : Nat → Nat} {n : Nat}
    (h : ∀ j < n, w' j = w j) (ls more : List (List Cell)) :
    printedLines p w n ls <+: printedLines p w' n (ls ++ more) := by
  have hfields : ∀ line : List (Option Cell),
      ((List.range n).flatMap fun j =>
        field p (w' j) (if j + 1 = n then 0 else gap) (line.getD j none)) =
      (List.range n).flatMap fun j =>
        field p (w j) (if j + 1 = n then 0 else gap) (line.getD j none) := fun line =>
    List.flatMap_congr fun j hj => by rw [h j (List.mem_range.mp hj)]
  simp only [printedLines, hfields, List.flatMap_append, List.map_append]
  exact List.prefix_append _ _

theorem text_prefix (p : Palette) {columns : Nat} {s e : List Step}
    (hcount : Layout.columnCount (Layout.lines columns (rows (s ++ e))) =
      Layout.columnCount (Layout.lines columns (rows s)))
    (hmeasure : ∀ j < Layout.columnCount (Layout.lines columns (rows s)),
      Layout.measure (Layout.lines columns (rows (s ++ e))) j =
        Layout.measure (Layout.lines columns (rows s)) j) :
    Layout.text p columns (rows s) <+: Layout.text p columns (rows (s ++ e)) := by
  obtain ⟨more, hmore⟩ := exists_lines_append columns s e
  have hbegins := printedLines_prefix p hmeasure (Layout.lines columns (rows s)) more
  rw [text_eq_printedLines, text_eq_printedLines, hcount, hmore]
  rw [hmore] at hbegins
  obtain ⟨later, hlater⟩ := hbegins
  rw [← hlater, List.flatMap_append]
  exact List.prefix_append _ _

end Table

/-- **Rows that are added later only move what is there.** But for spaces, the
lines of a table are the first lines of every table that goes on with more steps,
if no columns are added or no line vanishes. A line that vanishes is missing from
the first table, and if columns are added it is an empty line of the other; this
is all that differs. And if neither the number of columns nor any width changes,
the bytes of the first table begin those of the other. -/
theorem later_rows_move_nothing {p : Palette} (hp : p.IsControl) (columns : Nat)
    (s e : List Step) :
    let ls := Layout.lines columns (rows s)
    let ls' := Layout.lines columns (rows (s ++ e))
    let n := Layout.columnCount ls
    let n' := Layout.columnCount ls'
    let out := Layout.text p columns (rows s)
    let out' := Layout.text p columns (rows (s ++ e))
    session p .working columns s = .ok out ∧ session p .working columns (s ++ e) = .ok out' ∧
      (n' = n ∨ (∀ line ∈ ls, ¬ Vanishes n line) → spacelessLines out <+: spacelessLines out') ∧
      spacelessLines out = (ls.filter fun line => ¬ Vanishes n line).flatMap (bareLines p n) ∧
      (n < n' → (ls.flatMap fun line => if Vanishes n line then [[]] else bareLines p n line) <+:
        spacelessLines out') ∧
      (n' = n → (∀ j < n, Layout.measure ls' j = Layout.measure ls j) →
        Utf8.encode out <+: Utf8.encode out') := by
  intro ls ls' n n' out out'
  obtain ⟨more, hmore⟩ := exists_lines_append columns s e
  have hout : spacelessLines out = ls.flatMap (bareLines p n) := spacelessLines_text hp columns _
  have hbegins : (ls.flatMap fun line =>
      if Vanishes n line ∧ n < n' then [[]] else bareLines p n line) <+: spacelessLines out' := by
    have hout' : spacelessLines out' = ls'.flatMap (bareLines p n') :=
      spacelessLines_text hp columns _
    have hls : ls' = ls ++ more := hmore
    rw [hout', hls]
    exact flatMap_ite_prefix ls more rfl (hls ▸ rfl)
  refine ⟨session_eq_text p columns s, session_eq_text p columns (s ++ e), fun h => ?_, ?_,
    fun hlt => ?_, fun hcount hmeasure => ?_⟩
  · have hsame : ∀ line ∈ ls, (if Vanishes n line ∧ n < n' then [[]] else bareLines p n line) =
        bareLines p n line := fun line hline => if_neg fun hv =>
      h.elim (fun heq => absurd hv.2 (heq ▸ Nat.lt_irrefl n)) fun hnone => hnone line hline hv.1
    rw [List.flatMap_congr hsame] at hbegins
    rw [hout]
    exact hbegins
  · rw [hout, flatMap_filter_of_eq_nil fun line _ hv => ?_]
    rw [decide_eq_true_eq, not_not] at hv
    rw [bareLines, foldLine_of_vanishes hv, List.map_nil]
  · simpa only [hlt, and_true] using hbegins
  · obtain ⟨later, hlater⟩ := text_prefix p hcount hmeasure
    have hbytes : Utf8.encode out' = Utf8.encode out ++ Utf8.encode later := by
      rw [← Utf8.encode_append, hlater]
    rw [hbytes]
    exact List.prefix_append _ _

/-- Cells beside each other stay so, and only the spaces between them do not. -/
theorem later_rows_move_nothing_wider :
    let s := stepsOf [[⟨.green, ['a']⟩, ⟨.plain, ['x']⟩]] []
    let e := stepsOf [[⟨.green, ['b', 'c']⟩, ⟨.plain, ['y']⟩]] []
    let out := Layout.text .colored 0 (rows s)
    let out' := Layout.text .colored 0 (rows (s ++ e))
    spacelessLines out <+: spacelessLines out' ∧ ¬ out <+: out' := by
  intro s e out out'
  obtain ⟨-, -, hbegins, -⟩ := later_rows_move_nothing Palette.isControl_colored 0 s e
  exact ⟨hbegins (.inl (by decide)), by decide⟩

namespace Layout

/-- A cell of more spaces than a column can be wide. -/
def spaces : Cell := ⟨.plain, List.replicate 65536 ' '⟩

theorem newline_not_mem_spaces : '\n' ∉ spaces.text :=
  fun hmem => absurd (List.eq_of_mem_replicate hmem) (by decide)

theorem vanishes_spaces : Vanishes 1 [spaces] := by
  refine ⟨List.cons_ne_nil _ _, Nat.le_refl 1, fun cell hcell => ?_⟩
  rw [List.mem_singleton.mp hcell, spaces, List.length_replicate]
  exact ⟨by decide, fun c hc => List.eq_of_mem_replicate hc⟩

end Layout

/-- A line of too many spaces is printed only when there are more columns than its
cell: then the first line of the table is no longer that of the letter. -/
theorem later_rows_add_line :
    let s := stepsOf [[Layout.spaces], [⟨.plain, ['x']⟩]] []
    let e := stepsOf [[⟨.plain, ['a']⟩, ⟨.plain, ['b']⟩]] []
    ∃ out out', session .colored .working 0 s = .ok out ∧
      session .colored .working 0 (s ++ e) = .ok out' ∧
      ¬ spacelessLines out <+: spacelessLines out' := by
  intro s e
  have hlines : Layout.lines 0 (rows s) = [[Layout.spaces], [⟨.plain, ['x']⟩]] := by
    rw [rows_stepsOf, Layout.lines_zero (by simp [Layout.newline_not_mem_spaces])]
  have hlines' : Layout.lines 0 (rows (s ++ e)) =
      [[Layout.spaces], [⟨.plain, ['x']⟩], [⟨.plain, ['a']⟩, ⟨.plain, ['b']⟩]] := by
    have hsteps : s ++ e = stepsOf
        [[Layout.spaces], [⟨.plain, ['x']⟩], [⟨.plain, ['a']⟩, ⟨.plain, ['b']⟩]] [] := rfl
    rw [hsteps, rows_stepsOf, Layout.lines_zero (by simp [Layout.newline_not_mem_spaces])]
  have hcount : Layout.columnCount (Layout.lines 0 (rows s)) = 1 := by
    rw [hlines]
    rfl
  have hcount' : Layout.columnCount (Layout.lines 0 (rows (s ++ e))) = 2 := by
    rw [hlines']
    rfl
  have hout : spacelessLines (Layout.text .colored 0 (rows s)) = [['x']] := by
    -- the line of spaces is printed as no line
    have hgone : bareLines .colored 1 [Layout.spaces] = [] := by
      rw [bareLines, foldLine_of_vanishes Layout.vanishes_spaces, List.map_nil]
    rw [spacelessLines_text Palette.isControl_colored, hcount, hlines, List.flatMap_cons, hgone]
    decide
  have hout' : ∃ later,
      spacelessLines (Layout.text .colored 0 (rows (s ++ e))) = [] :: later := by
    rw [spacelessLines_text Palette.isControl_colored, hcount', hlines', List.flatMap_cons,
      bareLines_of_vanishes Layout.vanishes_spaces (by decide)]
    exact ⟨_, rfl⟩
  refine ⟨_, _, session_eq_text .colored 0 s, session_eq_text .colored 0 (s ++ e), ?_⟩
  obtain ⟨later, hlater⟩ := hout'
  rw [hout, hlater, List.cons_prefix_cons]
  exact fun h => List.cons_ne_nil _ _ h.1

end TargetHelp
