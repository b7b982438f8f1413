import Mathlib.Algebra.BigOperators.Group.List.Basic
import Mathlib.Algebra.GroupWithZero.Nat
import TargetHelp.Proofs.Colors
import TargetHelp.Proofs.Grouping

/-!
# The lines of the listing

The listing has lines of four cells: an empty one, a category, a name and a line
of a usage text (`Listing.lines`). Rows are made otherwise. The category stands
in front of the first row of its section, and the other rows have no cell for
it; a row is as tall as its usage text, and a name goes on empty below; and an
empty row closes a section. `Listing.lines_rows` says that these rows have those
lines, which is where names and categories of one line are needed.

What is counted on the lines is counted over sections and entries, and grouping
moves entries around but loses none (`Entry.sections_perm`). What is printed for
a line holds the control sequences around its cells
(`Table.forall₂_controls_printedLines`). Together, the listing accounts for
every entry once (`listing_accounts`), and only a text that is too wide for a
column takes lines that are not accounted for (`count_render_ne_lineCount`).
-/

namespace TargetHelp

open Table

/-! ## Control sequences of printed lines -/

/-- The codes of the control sequences around a cell. -/
def Cell.controls (p : Palette) (cell : Cell) : List Text :=
  (p.codes cell.color).1 ++ (p.codes cell.color).2

namespace Table

variable {p : Palette} (hp : p.IsControl)

include hp in
theorem controls_field_append (w space : Nat) {cell? : Option Cell}
    (h : ∀ cell, cell? = some cell → '\x1b' ∉ cell.text) (b : Text) :
    Text.controls (field p w space cell? ++ b) =
      cell?.elim [] (Cell.controls p) ++ Text.controls b := by
  cases cell? with
  | none =>
    exact Text.controls_append_of_not_mem
      (fun hmem => absurd (List.eq_of_mem_replicate hmem) (by decide)) b
  | some cell =>
    exact controls_paint_append hp cell.color (not_mem_filling (by decide) (h cell rfl) _ _) b

include hp in
/-- A printed line holds the control sequences around its cells, and no other. -/
theorem forall₂_controls_printedLines (w : Nat → Nat) {n : Nat} {ls : List (List Cell)}
    (hlength : ∀ line ∈ ls, line.length ≤ n)
    (hescape : ∀ line ∈ ls, ∀ cell ∈ line, '\x1b' ∉ cell.text) :
    List.Forall₂ (fun parts line =>
        Text.controls line = parts.flatMap (Option.elim · [] (Cell.controls p)))
      (ls.flatMap (foldLine n)) (printedLines p w n ls) := by
  rw [printedLines, List.forall₂_map_right_iff, List.forall₂_same]
  intro parts hparts
  obtain ⟨line, hline, hparts⟩ := List.mem_flatMap.mp hparts
  have hcells : ∀ cell, some cell ∈ parts → '\x1b' ∉ cell.text := fun cell hcell =>
    not_mem_of_mem_foldLine (by decide) (hescape line hline) hparts hcell
  have hshort : parts.length ≤ n := by
    obtain ⟨k, -, rfl⟩ := List.mem_map.mp hparts
    rw [List.length_map, List.length_map]
    exact hlength line hline
  rw [Text.controls_trimEnd,
    ← flatMap_range_getD (g := (Option.elim · [] (Cell.controls p))) (d := none) rfl hshort]
  exact Text.read_flatMap Text.controls_nil fun j _ b =>
    controls_field_append hp _ _ (fun cell hcell => hcells cell (some_mem_of_getD hcell)) b

end Table

/-! ## Lines of entries -/

/-- The lines of an entry are those of its usage text, the first one behind a
label and its name. -/
def Entry.lines (vars : Variables) (label : Cell) (e : Entry) : List (List Cell) :=
  match Text.lines (vars.replace e.usage) with
  | [] => []
  | first :: rest =>
    [.empty, label, ⟨.green, e.name⟩, ⟨.plain, first⟩] ::
      rest.map fun line => [.empty, .empty, .empty, ⟨.plain, line⟩]

/-- The line that closes a section. -/
def Section.closing : List Cell := [.empty, .empty, .empty, .empty]

/-- The lines of a section are those of its entries, with the category as the
label of the first, and an empty one. -/
def Section.lines (vars : Variables) (s : Section) : List (List Cell) :=
  match s.entries with
  | [] => []
  | first :: rest =>
    first.lines vars ⟨.blue, s.category⟩ ++ rest.flatMap (·.lines vars .empty) ++ [closing]

/-- The lines of the listing are those of its sections. -/
def Listing.lines (vars : Variables) (ss : List Section) : List (List Cell) :=
  ss.flatMap (·.lines vars)

namespace Layout

/-- A row whose last cell alone has more than one line is continued by lines
that are empty but for that. -/
theorem lines_concat (n : Nat) {front : Row} (h : ∀ cell ∈ front, '\n' ∉ cell.text) (cell : Cell)
    {first : Text} {rest : List Text} (hlines : Text.lines cell.text = first :: rest) :
    lines (n + 1) [front ++ [cell]] =
      (List.replicate (n - front.length) .empty ++ front ++ [{ cell with text := first }]) ::
        rest.map fun line => List.replicate (n - front.length) .empty ++
          List.replicate front.length .empty ++ [{ cell with text := line }] := by
  have hheight : height (front ++ [cell]) = rest.length + 1 := by
    rw [← height_eq, Row.height, List.map_append, List.foldl_append, foldl_max_lines h,
      List.map_singleton, hlines]
    exact Nat.max_eq_right (Nat.succ_pos _)
  have hpad : n + 1 - (front ++ [cell]).length = n - front.length := by
    rw [List.length_append, List.length_singleton]
    omega
  have hhead : front.map (·.piece 0) = front := by
    rw [List.map_congr_left fun c hc => Cell.piece_zero (h c hc), List.map_id']
  have htail : ∀ k, front.map (·.piece (k + 1)) = List.replicate front.length .empty := by
    intro k
    rw [List.map_congr_left fun c hc => Cell.piece_succ (h c hc) k, List.map_const']
  rw [lines, List.flatMap_singleton, hheight, List.range_succ_eq_map, List.map_cons, List.map_map]
  refine congrArg₂ List.cons ?_ (List.ext_getElem (by simp) fun k hk hk' => ?_)
  · rw [lineOf, hpad, List.map_append, hhead, List.map_singleton, Cell.piece, hlines,
      List.append_assoc]
    rfl
  · rw [List.length_map] at hk'
    rw [List.getElem_map, List.getElem_map, List.getElem_range, Function.comp_apply, lineOf, hpad,
      List.map_append, htail, List.map_singleton, Cell.piece, hlines, List.getElem?_cons_succ,
      List.getElem?_eq_getElem hk', List.append_assoc]

theorem lines_eq_flatMap (columns : Nat) (rows : List Row) :
    lines columns rows = rows.flatMap fun row => lines columns [row] := by
  simp [lines]

end Layout

namespace Entry

/-- There is a first line, whatever the label is. -/
theorem exists_lines_eq (vars : Variables) (e : Entry) :
    ∃ first rest, Text.lines (vars.replace e.usage) = first :: rest ∧
      ∀ label, e.lines vars label = [.empty, label, ⟨.green, e.name⟩, ⟨.plain, first⟩] ::
        rest.map fun line => [.empty, .empty, .empty, ⟨.plain, line⟩] := by
  obtain ⟨first, rest, hlines⟩ :=
    List.exists_cons_of_ne_nil (List.splitOn_ne_nil '\n' (vars.replace e.usage))
  refine ⟨first, rest, hlines, fun label => ?_⟩
  rw [lines, Text.lines, hlines]

/-- An entry is shown on its lines, with what stands in front of it as the
label. -/
theorem lines_cells (vars : Variables) (label? : Option Cell) {e : Entry}
    (hlabel : ∀ label ∈ label?, '\n' ∉ label.text) (hname : '\n' ∉ e.name) :
    Layout.lines 4 [label?.toList ++ e.cells vars] = e.lines vars (label?.getD .empty) := by
  have hfront : ∀ cell ∈ label?.toList ++ [(⟨.green, e.name⟩ : Cell)], '\n' ∉ cell.text := by
    intro cell hcell
    rcases List.mem_append.mp hcell with hcell | hcell
    · exact hlabel cell (Option.mem_toList.mp hcell)
    · rw [List.mem_singleton.mp hcell]
      exact hname
  obtain ⟨first, rest, husage, hlines⟩ := e.exists_lines_eq vars
  have hconcat := Layout.lines_concat 3 hfront ⟨.plain, vars.replace e.usage⟩ husage
  rw [hlines]
  cases label? with
  | none => exact hconcat
  | some label => exact hconcat

theorem length_of_mem_lines {vars : Variables} {label : Cell} {e : Entry} {line : List Cell}
    (h : line ∈ e.lines vars label) : line.length = 4 := by
  obtain ⟨first, rest, -, hlines⟩ := e.exists_lines_eq vars
  rw [hlines] at h
  rcases List.mem_cons.mp h with rfl | h
  · rfl
  · obtain ⟨text, -, rfl⟩ := List.mem_map.mp h
    rfl

/-- An entry takes one line, and one more for every newline of its usage text. -/
theorem length_lines (vars : Variables) (label : Cell) (e : Entry) :
    (e.lines vars label).length = 1 + (vars.replace e.usage).count '\n' := by
  obtain ⟨first, rest, husage, hlines⟩ := e.exists_lines_eq vars
  have hlength := length_splitOn '\n' (vars.replace e.usage)
  rw [← Text.lines, husage, List.length_cons] at hlength
  rw [hlines, List.length_cons, List.length_map, hlength, Nat.add_comm]

/-- On the lines of an entry only the label and the name are coloured. -/
theorem countP_lines (vars : Variables) (label : Cell) (e : Entry) {color : Color}
    (h : color ≠ .plain) : (e.lines vars label).flatten.countP (·.color = color) =
      [label, (⟨.green, e.name⟩ : Cell)].countP (·.color = color) := by
  obtain ⟨first, rest, -, hlines⟩ := e.exists_lines_eq vars
  have hrest : ((rest.map fun line => [Cell.empty, .empty, .empty, ⟨.plain, line⟩]).flatten).countP
      (·.color = color) = 0 := by
    rw [List.countP_eq_zero]
    intro cell hcell
    obtain ⟨line, hline, hcell⟩ := List.mem_flatten.mp hcell
    obtain ⟨text, -, rfl⟩ := List.mem_map.mp hline
    have hplain : cell.color = .plain := by
      simp only [List.mem_cons, List.not_mem_nil, or_false] at hcell
      rcases hcell with rfl | rfl | rfl | rfl <;> rfl
    simp [hplain, h.symm]
  rw [hlines]
  simp only [List.flatten_cons, List.countP_append, hrest]
  simp [List.countP_cons, Cell.empty, h.symm]

end Entry

/-! ## Lines of sections -/

namespace Section

/-- A section that is not empty is shown on its lines. -/
theorem lines_rows (vars : Variables) {s : Section} (hne : s.entries ≠ [])
    (hcategory : '\n' ∉ s.category) (hname : ∀ e ∈ s.entries, '\n' ∉ e.name) :
    Layout.lines 4 (s.rows vars) = s.lines vars := by
  obtain ⟨category, entries⟩ := s
  obtain ⟨first, rest, rfl⟩ := List.exists_cons_of_ne_nil hne
  have hfirst : Layout.lines 4 [⟨.blue, category⟩ :: first.cells vars] =
      first.lines vars ⟨.blue, category⟩ :=
    Entry.lines_cells vars (some ⟨.blue, category⟩)
      (fun _ hlabel => Option.some_inj.mp hlabel ▸ hcategory) (hname first (List.mem_cons_self ..))
  have hrest : Layout.lines 4 (rest.map (·.cells vars)) = rest.flatMap (·.lines vars .empty) := by
    rw [Layout.lines_eq_flatMap, List.flatMap_map]
    exact List.flatMap_congr fun e he =>
      Entry.lines_cells vars none nofun (hname e (List.mem_cons_of_mem _ he))
  rw [Layout.lines_eq_flatMap] at hrest
  rw [rows, Layout.lines_eq_flatMap, List.flatMap_append, List.flatMap_cons, hfirst, hrest]
  rfl

theorem length_of_mem_lines {vars : Variables} {s : Section} {line : List Cell}
    (h : line ∈ s.lines vars) : line.length = 4 := by
  rw [lines] at h
  split at h
  · cases h
  · rcases List.mem_append.mp h with h | h
    · rcases List.mem_append.mp h with h | h
      · exact Entry.length_of_mem_lines h
      · obtain ⟨e, -, h⟩ := List.mem_flatMap.mp h
        exact Entry.length_of_mem_lines h
    · rw [List.mem_singleton.mp h]
      rfl

/-- The line that closes a section is printed without anything on it. -/
theorem printed_closing (p : Palette) (w : Nat → Nat) : Layout.printed p w 4 closing = ['\n'] := by
  have hblank : ∀ c ∈ (List.range 4).flatMap (Layout.field p w 4 closing), isBlank c = true := by
    intro c hc
    obtain ⟨j, -, hc⟩ := List.mem_flatMap.mp hc
    have hcell : closing.getD j .empty = .empty :=
      Layout.forall_getD (P := (· = .empty)) (fun _ => List.eq_of_mem_replicate (n := 4)) rfl j
    have hpaint : ∀ t : Text, p.paint Cell.empty.color t = t := fun _ => rfl
    rw [Layout.field, hcell, Layout.filled, hpaint, Cell.empty, List.nil_append,
      ← List.replicate_add] at hc
    rw [List.eq_of_mem_replicate hc]
    decide
  rw [Layout.printed]
  exact congrArg (· ++ ['\n']) (Text.trimEnd_append_of_isBlank [] hblank)

/-- A section takes the lines of its entries, and one more. -/
theorem length_lines (vars : Variables) {s : Section} (hne : s.entries ≠ []) :
    (s.lines vars).length =
      (s.entries.map fun e => 1 + (vars.replace e.usage).count '\n').sum + 1 := by
  obtain ⟨category, entries⟩ := s
  obtain ⟨first, rest, rfl⟩ := List.exists_cons_of_ne_nil hne
  rw [lines, List.length_append, List.length_append, List.length_flatMap, Entry.length_lines]
  simp only [Entry.length_lines, List.map_cons, List.sum_cons, List.length_singleton]

/-- On the lines of a section only the category and the names are coloured. -/
theorem countP_lines (vars : Variables) {s : Section} (hne : s.entries ≠ []) {color : Color}
    (h : color ≠ .plain) : (s.lines vars).flatten.countP (·.color = color) =
      [(⟨.blue, s.category⟩ : Cell)].countP (·.color = color) +
        (s.entries.map fun e => (⟨.green, e.name⟩ : Cell)).countP (·.color = color) := by
  obtain ⟨category, entries⟩ := s
  obtain ⟨first, rest, rfl⟩ := List.exists_cons_of_ne_nil hne
  have hempty : closing.countP (·.color = color) = 0 := by
    simp [closing, Cell.empty, h.symm]
  have hrest : (rest.flatMap (·.lines vars .empty)).flatten.countP (·.color = color) =
      (rest.map fun e => (⟨.green, e.name⟩ : Cell)).countP (·.color = color) := by
    induction rest with
    | nil => rfl
    | cons e rest ih =>
      rw [List.flatMap_cons, List.flatten_append, List.countP_append, Entry.countP_lines vars _ e h,
        ih (List.cons_ne_nil _ _)]
      simp [List.countP_cons, Cell.empty, h.symm, Nat.add_comm]
  simp only [lines, List.flatten_append, List.countP_append, Entry.countP_lines vars _ first h,
    hrest, List.flatten_singleton, hempty]
  simp only [List.countP_cons, List.map_cons, List.countP_nil]
  omega

end Section

/-! ## Lines of the listing -/

namespace Listing

/-- The listing is shown on its lines. -/
theorem lines_rows (vars : Variables) {ss : List Section} (hne : ∀ s ∈ ss, s.entries ≠ [])
    (hcategory : ∀ s ∈ ss, '\n' ∉ s.category)
    (hname : ∀ s ∈ ss, ∀ e ∈ s.entries, '\n' ∉ e.name) :
    Layout.lines 4 (rows vars ss) = lines vars ss := by
  rw [rows, Layout.lines_eq_flatMap, List.flatMap_assoc]
  refine List.flatMap_congr fun s hs => ?_
  rw [← Layout.lines_eq_flatMap]
  exact Section.lines_rows vars (hne s hs) (hcategory s hs) (hname s hs)

/-- The lines of a single entry. -/
theorem lines_sections_singleton (vars : Variables) (e : Entry) :
    lines vars (Entry.sections [e]) =
      e.lines vars ⟨.blue, e.category⟩ ++ [Section.closing] := by
  rw [Entry.sections_singleton, lines, List.flatMap_singleton]
  exact congrArg (· ++ _) (List.append_nil _)

theorem length_of_mem_lines {vars : Variables} {ss : List Section} {line : List Cell}
    (h : line ∈ lines vars ss) : line.length = 4 := by
  obtain ⟨s, -, hline⟩ := List.mem_flatMap.mp h
  exact Section.length_of_mem_lines hline

/-- A line that fits is not folded. -/
theorem foldLine_of_mem_lines {vars : Variables} {ss : List Section} {line : List Cell}
    (h : line ∈ lines vars ss) (hfits : ∀ cell ∈ line, width cell.text ≤ 65535) :
    foldLine 4 line = [line.map some] := by
  refine foldLine_of_le (.inr (List.ne_nil_of_length_pos ?_)) hfits
  rw [length_of_mem_lines h]
  decide

/-- There are four columns, if there is any line. -/
theorem columnCount_lines (vars : Variables) {ss : List Section} (h : lines vars ss ≠ []) :
    Layout.columnCount (lines vars ss) = 4 := by
  rw [Layout.columnCount, List.map_congr_left fun _ => length_of_mem_lines, List.map_const',
    List.max?_replicate_of_pos (List.length_pos_of_ne_nil h), Option.getD_some]

/-- The number of lines of the listing of some entries: each takes one, and one
more for every newline of its usage text, and each category takes one. -/
def lineCount (vars : Variables) (entries : List Entry) : Nat :=
  (entries.map fun e => 1 + (vars.replace e.usage).count '\n').sum +
    (entries.map (·.category)).dedup.length

theorem length_lines (vars : Variables) (entries : List Entry) :
    (lines vars (Entry.sections entries)).length = lineCount vars entries := by
  have harranged := Entry.arranged_sections entries
  have hsections : ∀ ss : List Section, (∀ s ∈ ss, s.entries ≠ []) →
      (lines vars ss).length = ((ss.flatMap (·.entries)).map fun e =>
        1 + (vars.replace e.usage).count '\n').sum + ss.length := by
    intro ss hne
    induction ss with
    | nil => rfl
    | cons s ss ih =>
      have ih := ih fun s' hs' => hne s' (List.mem_cons_of_mem _ hs')
      rw [lines] at ih
      rw [lines, List.flatMap_cons, List.length_append,
        Section.length_lines vars (hne s (List.mem_cons_self ..)), ih, List.flatMap_cons,
        List.map_append, List.sum_append, List.length_cons]
      omega
  rw [hsections _ fun s hs => harranged.entries_ne_nil hs,
    ((Entry.sections_perm entries).map _).sum_eq, Entry.length_sections, lineCount]

/-- There are as many green cells as entries, and as many blue ones as
categories. -/
theorem countP_lines (vars : Variables) (entries : List Entry) {color : Color}
    (h : color ≠ .plain) :
    (lines vars (Entry.sections entries)).flatten.countP (·.color = color) =
      if color = .green then entries.length else (entries.map (·.category)).dedup.length := by
  have harranged := Entry.arranged_sections entries
  have hsections : ∀ ss : List Section, (∀ s ∈ ss, s.entries ≠ []) →
      (lines vars ss).flatten.countP (·.color = color) =
        (ss.map fun s => (⟨.blue, s.category⟩ : Cell)).countP (·.color = color) +
          ((ss.flatMap (·.entries)).map fun e => (⟨.green, e.name⟩ : Cell)).countP
            (·.color = color) := by
    intro ss hne
    induction ss with
    | nil => rfl
    | cons s ss ih =>
      have ih := ih fun s' hs' => hne s' (List.mem_cons_of_mem _ hs')
      rw [lines] at ih
      rw [lines, List.flatMap_cons, List.flatten_append, List.countP_append,
        Section.countP_lines vars (hne s (List.mem_cons_self ..)) h, ih]
      simp only [List.flatMap_cons, List.map_append, List.countP_append, List.map_cons,
        List.countP_cons, List.countP_nil]
      omega
  rw [hsections _ fun s hs => harranged.entries_ne_nil hs,
    ((Entry.sections_perm entries).map _).countP_eq, ← Entry.length_sections]
  cases color with
  | plain => exact absurd rfl h
  | green => simp [List.countP_map, Function.comp_def]
  | blue => simp [List.countP_map, Function.comp_def]

/-- The lines of the listing, as they are printed. -/
theorem render_eq_lines (p : Palette) {vars : Variables} {ss : List Section}
    (hlines : Layout.lines 4 (rows vars ss) = lines vars ss) :
    render p vars ss = (lines vars ss).flatMap fun line =>
      if ∀ cell ∈ line, width cell.text ≤ 65535 then
        Layout.printed p (Layout.measure (lines vars ss)) 4 line
      else Layout.folded p (Layout.measure (lines vars ss)) 4 line := by
  have hrender : render p vars ss = Layout.text p 4 (rows vars ss) := render_eq_text p 4 _
  rw [hrender, Layout.text, hlines]
  by_cases hls : lines vars ss = []
  · rw [hls]
    rfl
  · simp only [columnCount_lines vars hls, if_neg (show ¬ 4 = 0 by decide)]
    rfl

/-- And as a list of printed lines. -/
theorem lines_render {p : Palette} (hp : p.IsControl) {vars : Variables} {ss : List Section}
    (hlines : Layout.lines 4 (rows vars ss) = lines vars ss) :
    Text.lines (render p vars ss) =
      printedLines p (Layout.measure (lines vars ss)) 4 (lines vars ss) ++ [[]] := by
  have hrender : render p vars ss = Layout.text p 4 (rows vars ss) := render_eq_text p 4 _
  rw [hrender, lines_text hp, hlines]
  by_cases hls : lines vars ss = []
  · rw [hls]
    rfl
  · rw [columnCount_lines vars hls]

/-- What a row of a section shows is its category, or a name or the usage text of
one of its entries. -/
theorem eq_of_mem_rows {vars : Variables} {s : Section} {row : Row} (hrow : row ∈ s.rows vars)
    {cell : Cell} (hcell : cell ∈ row) : cell.text = s.category ∨
      ∃ e ∈ s.entries, cell.text = e.name ∨ cell.text = vars.replace e.usage := by
  have hcells : ∀ e ∈ s.entries, cell ∈ e.cells vars →
      ∃ e ∈ s.entries, cell.text = e.name ∨ cell.text = vars.replace e.usage := by
    intro e he hcell
    rcases List.mem_pair.mp hcell with rfl | rfl
    · exact ⟨e, he, .inl rfl⟩
    · exact ⟨e, he, .inr rfl⟩
  obtain ⟨category, entries⟩ := s
  cases entries with
  | nil =>
    rw [List.mem_singleton.mp hrow] at hcell
    rw [List.mem_singleton.mp hcell]
    exact .inl rfl
  | cons first rest =>
    rcases List.mem_append.mp hrow with hrow | hrow
    · rcases List.mem_cons.mp hrow with rfl | hrow
      · rcases List.mem_cons.mp hcell with rfl | hcell
        · exact .inl rfl
        · exact .inr (hcells first (List.mem_cons_self ..) hcell)
      · obtain ⟨e, he, rfl⟩ := List.mem_map.mp hrow
        exact .inr (hcells e (List.mem_cons_of_mem _ he) hcell)
    · rw [List.mem_singleton.mp hrow] at hcell
      cases hcell

section

variable {entries : List Entry} (hname : ∀ e ∈ entries, '\n' ∉ e.name)
  (hcategory : ∀ e ∈ entries, '\n' ∉ e.category)

include hname hcategory in
/-- Grouped entries are listed on their lines. -/
theorem lines_rows_sections (vars : Variables) :
    Layout.lines 4 (rows vars (Entry.sections entries)) = lines vars (Entry.sections entries) := by
  refine lines_rows vars (fun s hs => (Entry.arranged_sections entries).entries_ne_nil hs)
    (fun s hs => ?_) fun s hs e he => hname e (Entry.mem_of_mem_sections hs he)
  obtain ⟨e, he, heq⟩ := Entry.exists_category_eq hs
  exact heq ▸ hcategory e he

include hname hcategory in
/-- As many lines are printed as these are folded into. -/
theorem count_render {p : Palette} (hp : p.IsControl) (vars : Variables) :
    (render p vars (Entry.sections entries)).count '\n' =
      ((lines vars (Entry.sections entries)).flatMap (foldLine 4)).length := by
  have hprinted := lines_render hp (lines_rows_sections hname hcategory vars)
  have hnewlines := length_splitOn '\n' (render p vars (Entry.sections entries))
  rw [← Text.lines, hprinted, List.length_append, printedLines, List.length_map] at hnewlines
  exact (Nat.succ.inj hnewlines).symm

include hname hcategory in
/-- What entries do not show, the lines of the listing do not show. -/
theorem not_mem_lines {vars : Variables} {c : Char}
    (h : ∀ e ∈ entries, c ∉ e.name ∧ c ∉ e.category ∧ c ∉ vars.replace e.usage) :
    ∀ line ∈ lines vars (Entry.sections entries), ∀ cell ∈ line, c ∉ cell.text := by
  intro line hline cell hcell hc
  rw [← lines_rows_sections hname hcategory] at hline
  obtain ⟨-, row, hrow, whole, hwhole, hc⟩ := exists_of_mem_lines hline hcell hc
  obtain ⟨s, hs, hrow⟩ := List.mem_flatMap.mp hrow
  rcases eq_of_mem_rows hrow hwhole with heq | ⟨e, he, heq | heq⟩
  · obtain ⟨e, he, hsection⟩ := Entry.exists_category_eq hs
    exact (h e he).2.1 (hsection ▸ heq ▸ hc)
  · exact (h e (Entry.mem_of_mem_sections hs he)).1 (heq ▸ hc)
  · exact (h e (Entry.mem_of_mem_sections hs he)).2.2 (heq ▸ hc)

end

end Listing

/-- What a text does not hold, and the values of no variable hold, is not in the
text after its references have been replaced. -/
theorem Variables.not_mem_replace {vars : Variables} {t : Text} {c : Char} (ht : c ∉ t)
    (hvars : vars.Avoids c) : c ∉ vars.replace t := by
  intro hc
  obtain ⟨part, hpart, hc⟩ := List.mem_flatMap.mp hc
  have hwritten : c ∉ part.written := by
    intro hmem
    have hall : c ∈ Template.written (Template.parse t) := List.mem_flatMap.mpr ⟨part, hpart, hmem⟩
    rw [Template.written_parse] at hall
    exact ht hall
  cases part with
  | literal d => exact hwritten hc
  | reference r =>
    rw [Part.value] at hc
    cases hvalues : vars.values r.name with
    | nil =>
      rw [hvalues] at hc
      exact hwritten hc
    | cons v vs =>
      rw [hvalues] at hc
      exact hvars.not_mem (hvalues ▸ List.mem_cons_self ..) hc

/-- What is printed accounts for these entries, under these sections. -/
structure Listing.Accounts (p : Palette) (vars : Variables) (entries : List Entry)
    (ss : List Section) (out : Text) : Prop where
  /-- the sections hold the entries, in order -/
  arranged : Entry.Arranged entries ss
  /-- there are as many lines as are counted -/
  length : (Listing.lines vars ss).length = Listing.lineCount vars entries
  /-- there are as many green cells as entries -/
  green : (Listing.lines vars ss).flatten.countP (·.color = .green) = entries.length
  /-- there are as many blue cells as categories -/
  blue : (Listing.lines vars ss).flatten.countP (·.color = .blue) =
    (entries.map (·.category)).dedup.length
  /-- the lines are printed in order, and only those that do not fit are folded -/
  text : out = (Listing.lines vars ss).flatMap fun line =>
    if ∀ cell ∈ line, width cell.text ≤ 65535 then
      Layout.printed p (Layout.measure (Listing.lines vars ss)) 4 line
    else Layout.folded p (Layout.measure (Listing.lines vars ss)) 4 line
  /-- a line that fits is not folded -/
  unfolded : ∀ line ∈ Listing.lines vars ss, (∀ cell ∈ line, width cell.text ≤ 65535) →
    foldLine 4 line = [line.map some]
  /-- the line that closes a section is printed as an empty line -/
  closing : Layout.printed p (Layout.measure (Listing.lines vars ss)) 4 Section.closing = ['\n']
  /-- what is printed for each line holds the control sequences around its cells -/
  controls : List.Forall₂ (fun parts line =>
      Text.controls line = parts.flatMap (Option.elim · [] (Cell.controls p)))
    ((Listing.lines vars ss).flatMap (foldLine 4)) (Text.lines out).dropLast

/-- **The listing accounts for every target once.** It has a section for every
category, in order, whose entries are in order. Every entry takes as many lines
as its usage text, of which the first holds its name in green and, in a section,
the first of all holds the category in blue; one empty line closes a section.
These lines are printed one by one, with no other control sequences than those
around their coloured cells. Only a line with a text wider than 65535 is not
printed as one. -/
theorem listing_accounts {p : Palette} (hp : p.IsControl) {vars : Variables} {entries : List Entry}
    (hname : ∀ e ∈ entries, '\n' ∉ e.name ∧ '\x1b' ∉ e.name)
    (hcategory : ∀ e ∈ entries, '\n' ∉ e.category ∧ '\x1b' ∉ e.category)
    (husage : ∀ e ∈ entries, '\x1b' ∉ e.usage)
    (hvars : ∀ name values, vars.get? name = some values → ∀ v ∈ values, '\x1b' ∉ v) :
    let ss := Entry.sections entries
    let out := Listing.render p vars ss
    Listing.write p .working vars ss = .ok out ∧ Listing.Accounts p vars entries ss out ∧
      ((∀ line ∈ Listing.lines vars ss, ∀ cell ∈ line, width cell.text ≤ 65535) →
        out.count '\n' = Listing.lineCount vars entries) := by
  intro ss out
  have hname' : ∀ e ∈ entries, '\n' ∉ e.name := fun e he => (hname e he).1
  have hcategory' : ∀ e ∈ entries, '\n' ∉ e.category := fun e he => (hcategory e he).1
  have hlines := Listing.lines_rows_sections hname' hcategory' vars
  have hescape := Listing.not_mem_lines hname' hcategory' (c := '\x1b') fun e he =>
    ⟨(hname e he).2, (hcategory e he).2, Variables.not_mem_replace (husage e he) hvars⟩
  have hlength : ∀ line ∈ Listing.lines vars ss, line.length ≤ 4 := fun line hline =>
    Nat.le_of_eq (Listing.length_of_mem_lines hline)
  refine ⟨(Listing.delivers_write p vars ss).working, ⟨Entry.arranged_sections entries, Listing.length_lines vars entries, ?_, ?_,
    Listing.render_eq_lines p hlines, fun _ => Listing.foldLine_of_mem_lines,
    Section.printed_closing p _, ?_⟩, fun hfits => ?_⟩
  · exact Listing.countP_lines vars entries (by decide)
  · exact Listing.countP_lines vars entries (by decide)
  · rw [Listing.lines_render hp hlines, List.dropLast_concat]
    exact forall₂_controls_printedLines hp _ hlength hescape
  · have hfold : (Listing.lines vars ss).flatMap (foldLine 4) =
        (Listing.lines vars ss).map fun line => line.map some := by
      rw [List.map_eq_flatMap]
      exact List.flatMap_congr fun line hline =>
        Listing.foldLine_of_mem_lines hline (hfits line hline)
    rw [Listing.count_render hname' hcategory' hp vars, hfold, List.length_map,
      Listing.length_lines]

/-- The listing of one entry whose usage text has two lines. -/
theorem listing_accounts_twoLines :
    let entries : List Entry := [⟨['a'], ['t'], ['x', '\n', 'y']⟩]
    let out := Listing.render .colored .empty (Entry.sections entries)
    Listing.Accounts .colored .empty entries (Entry.sections entries) out ∧ out.count '\n' = 3 := by
  intro entries out
  have hvars : ∀ name values, Variables.empty.get? name = some values →
      ∀ v ∈ values, '\x1b' ∉ v := by
    intro name values h
    rw [Variables.get?_empty] at h
    cases h
  have hreplace : Variables.empty.replace ['x', '\n', 'y'] = ['x', '\n', 'y'] := by
    rw [Variables.replace, Template.parse_cons_of_read?_eq_none rfl,
      Template.parse_cons_of_read?_eq_none rfl, Template.parse_cons_of_read?_eq_none rfl,
      Template.parse_nil]
    rfl
  have hlines : Listing.lines .empty (Entry.sections entries) =
      [[.empty, ⟨.blue, ['t']⟩, ⟨.green, ['a']⟩, ⟨.plain, ['x']⟩],
        [.empty, .empty, .empty, ⟨.plain, ['y']⟩], Section.closing] := by
    rw [Listing.lines_sections_singleton, Entry.lines, hreplace]
    rfl
  have hname : ∀ e ∈ entries, '\n' ∉ e.name ∧ '\x1b' ∉ e.name := by decide
  have hcategory : ∀ e ∈ entries, '\n' ∉ e.category ∧ '\x1b' ∉ e.category := by decide
  have husage : ∀ e ∈ entries, '\x1b' ∉ e.usage := by decide
  obtain ⟨-, haccounts, hcount⟩ :=
    listing_accounts Palette.isControl_colored hname hcategory husage hvars
  refine ⟨haccounts, (hcount ?_).trans ?_⟩
  · rw [hlines]
    decide
  · rw [← Listing.length_lines, hlines]
    rfl

/-- An entry whose name is a column too wide. -/
def Listing.wideEntry : Entry := ⟨List.replicate (limit + 1) 'a', [], []⟩

/-- It takes two lines, and the empty one that closes its section. -/
theorem Listing.count_render_wideEntry {p : Palette} (hp : p.IsControl) (vars : Variables) :
    (render p vars (Entry.sections [wideEntry])).count '\n' = 3 := by
  have hname : ∀ e ∈ [wideEntry], '\n' ∉ e.name := by
    intro e he
    rw [List.mem_singleton.mp he]
    exact Layout.newline_not_mem_letters _
  have hcategory : ∀ e ∈ [wideEntry], '\n' ∉ e.category := by
    intro e he
    rw [List.mem_singleton.mp he]
    exact List.not_mem_nil
  have hreplace : vars.replace wideEntry.usage = [] := by
    rw [wideEntry, Variables.replace, Template.parse_nil]
    rfl
  have hempty : ∀ color, foldCell ⟨color, []⟩ = [⟨color, []⟩] := fun _ => rfl
  have hwide : (foldLine 4 [.empty, ⟨.blue, []⟩, ⟨.green, List.replicate (limit + 1) 'a'⟩,
      ⟨.plain, []⟩]).length = 2 := by
    rw [foldLine, List.map_cons, List.map_cons, List.map_cons, List.map_singleton, Cell.empty,
      hempty, hempty, Layout.foldCell_letters, List.length_map, List.length_range]
    rfl
  have hclosing : (foldLine 4 Section.closing).length = 1 := rfl
  rw [count_render hname hcategory hp, lines_sections_singleton, Entry.lines, hreplace]
  change ([[Cell.empty, ⟨.blue, []⟩, ⟨.green, List.replicate (limit + 1) 'a'⟩, ⟨.plain, []⟩],
    Section.closing].flatMap (foldLine 4)).length = 3
  rw [List.flatMap_cons, List.flatMap_singleton, List.length_append, hwide, hclosing]

/-- A name of 65536 letters does not stay on one line, so a line is printed that
is not accounted for. -/
theorem count_render_ne_lineCount :
    let wide : Entry := ⟨List.replicate 65536 'a', [], []⟩
    '\n' ∉ wide.name ∧ '\x1b' ∉ wide.name ∧
      (Listing.render .colored .empty (Entry.sections [wide])).count '\n' ≠
        Listing.lineCount .empty [wide] := by
  intro wide
  have hletters : ∀ c, c ≠ 'a' → c ∉ wide.name := fun c hc hmem =>
    hc (List.eq_of_mem_replicate hmem)
  have hwide : wide = Listing.wideEntry := rfl
  have hreplace : Variables.empty.replace [] = [] := by
    rw [Variables.replace, Template.parse_nil]
    rfl
  have hcount : Listing.lineCount .empty [wide] = 2 := by
    rw [Listing.lineCount, List.map_singleton, hreplace]
    rfl
  refine ⟨hletters _ (by decide), hletters _ (by decide), ?_⟩
  rw [hcount, hwide, Listing.count_render_wideEntry Palette.isControl_colored]
  decide

end TargetHelp
