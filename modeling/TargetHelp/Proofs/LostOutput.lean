import TargetHelp.Proofs.Encoding
import TargetHelp.Proofs.Grouping
import TargetHelp.Proofs.Runs
import TargetHelp.Proofs.TableLayout

/-!
# Lost output

Output may be refused, or taken and not passed on. Whoever writes a table or a
listing is told, whenever something is lost and only then (`ReportsLoss`), since
tables and listings are delivered as what they render to (`Delivers`).

So it matters whether there is anything to write. A table writes something if it
has a row, unless there is no cell in any row and no column is asked for
(`Table.render_eq_nil_iff`), a listing if it has a section
(`Listing.render_eq_nil_iff`), and a run if it has a header or something to list.
`lost_output_is_reported` puts this together.
-/

namespace TargetHelp

/-! ## Calls that report lost output -/

/-- A call that writes to a sink reports lost output, and nothing else. -/
structure ReportsLoss (call : Sink → Except Fault Text) : Prop where
  /-- with a sink that works there is nothing to report -/
  working : ∃ text, call .working = .ok text
  /-- a refusal is reported if a sink that works would have been given a byte -/
  refusing_iff : ∀ fault, call (.refusing fault) = .error fault ↔
    ∃ text, call .working = .ok text ∧ text ≠ []
  /-- otherwise the call succeeds -/
  otherwise : ∀ fault, call (.refusing fault) = .error fault ∨ call (.refusing fault) = .ok []
  /-- that nothing is passed on is reported in any case -/
  stuck : ∀ fault, call (.stuck fault) = .error fault

/-- A call that delivers a text reports it if the text is lost. -/
theorem Delivers.reportsLoss {call : Sink → Except Fault Text} {t : Text} (h : Delivers call t) :
    ReportsLoss call := by
  refine ⟨⟨t, h.working⟩, fun fault => ?_, fun fault => ?_, h.stuck⟩
  · rw [h.refusing, h.working]
    cases t <;> simp
  · rw [h.refusing]
    cases t <;> simp

/-! ## Tables with something to write -/

namespace Layout

/-- A line is not folded away if one of its texts fits. -/
theorem foldCount_pos (n : Nat) {line : List Cell} {cell : Cell} (hcell : cell ∈ line)
    (hfits : width cell.text ≤ 65535) : 0 < foldCount n line := by
  have hone : (Table.foldCell cell).length = 1 := by
    rw [Table.foldCell, Table.limit, if_pos hfits]
    rfl
  have hle : 1 ≤ (line.map fun cell => (Table.foldCell cell).length).max?.getD 0 :=
    le_max?_getD (List.mem_map.mpr ⟨cell, hcell, hone⟩)
  exact Nat.lt_of_lt_of_le hle (Nat.le_max_right ..)

/-- The lines of a row are as long as the row, or as there are columns asked
for. -/
theorem length_of_mem_lines {columns : Nat} {rows : List Row} {line : List Cell}
    (h : line ∈ lines columns rows) :
    ∃ row ∈ rows, line.length = columns - row.length + row.length := by
  obtain ⟨row, hrow, hline⟩ := List.mem_flatMap.mp h
  obtain ⟨k, -, rfl⟩ := List.mem_map.mp hline
  refine ⟨row, hrow, ?_⟩
  rw [lineOf, List.length_append, List.length_replicate, List.length_map]

/-- Every row has a line. -/
theorem exists_mem_lines (columns : Nat) {rows : List Row} {row : Row} (h : row ∈ rows) :
    lineOf columns row 0 ∈ lines columns rows := by
  have hheight : 0 < height row := by
    rw [← height_eq, Row.height, foldl_max]
    exact Nat.lt_of_lt_of_le Nat.one_pos (Nat.le_max_left ..)
  exact List.mem_flatMap.mpr
    ⟨row, h, List.mem_map.mpr ⟨0, List.mem_range.mpr hheight, rfl⟩⟩

end Layout

namespace Table

/-- A table writes something if a text on one of its lines fits. -/
theorem render_ne_nil (palette : Palette) {columns : Nat} {rows : List Row} {line : List Cell}
    (hline : line ∈ Layout.lines columns rows) {cell : Cell} (hcell : cell ∈ line)
    (hfits : width cell.text ≤ 65535) : render palette columns rows ≠ [] := by
  have hcount : Layout.columnCount (Layout.lines columns rows) ≠ 0 :=
    Nat.ne_of_gt (Nat.lt_of_lt_of_le (List.length_pos_of_mem hcell)
      (Layout.length_le_columnCount hline))
  rw [render_eq_text, Layout.text, if_neg hcount, Ne, List.flatMap_eq_nil_iff]
  intro hnil
  have hprinted := hnil line hline
  split at hprinted
  · exact absurd hprinted (List.append_ne_nil_of_right_ne_nil _ (List.cons_ne_nil _ _))
  · -- the first of the lines that it is folded into is already something
    rw [Layout.folded, List.flatMap_eq_nil_iff] at hprinted
    have hfirst := hprinted 0 (List.mem_range.mpr (Layout.foldCount_pos _ hcell hfits))
    exact absurd hfirst (List.append_ne_nil_of_right_ne_nil _ (List.cons_ne_nil _ _))

/-- A table of no cells and no columns writes nothing, whatever rows it has. -/
theorem render_eq_nil (palette : Palette) {columns : Nat} {rows : List Row}
    (h : ∀ row ∈ rows, columns = 0 ∧ row = []) : render palette columns rows = [] := by
  have hempty : ∀ n ∈ (Layout.lines columns rows).map List.length, n = 0 := by
    intro n hn
    obtain ⟨line, hline, rfl⟩ := List.mem_map.mp hn
    obtain ⟨row, hrow, hlength⟩ := Layout.length_of_mem_lines hline
    obtain ⟨rfl, rfl⟩ := h row hrow
    exact hlength
  have hcount : Layout.columnCount (Layout.lines columns rows) = 0 := by
    rw [Layout.columnCount]
    cases hmax : ((Layout.lines columns rows).map List.length).max? with
    | none => rfl
    | some n => exact hempty n (List.max?_mem hmax)
  rw [render_eq_text, Layout.text, if_pos hcount]

/-- If no text is too wide, a table writes nothing only if there are no cells in
it and no columns asked for. -/
theorem render_eq_nil_iff (palette : Palette) {columns : Nat} {rows : List Row}
    (hfits : ∀ line ∈ Layout.lines columns rows, ∀ cell ∈ line, width cell.text ≤ 65535) :
    render palette columns rows = [] ↔ ∀ row ∈ rows, columns = 0 ∧ row = [] := by
  refine ⟨fun hnil row hrow => ?_, render_eq_nil palette⟩
  have hline := Layout.exists_mem_lines columns hrow
  have hempty : Layout.lineOf columns row 0 = [] := by
    by_contra hne
    obtain ⟨cell, hcell⟩ := List.exists_mem_of_ne_nil _ hne
    exact render_ne_nil palette hline hcell (hfits _ hline cell hcell) hnil
  rw [Layout.lineOf, List.append_eq_nil_iff, List.map_eq_nil_iff] at hempty
  obtain ⟨hpad, rfl⟩ := hempty
  rw [List.replicate_eq_nil_iff] at hpad
  exact ⟨hpad, rfl⟩

end Table

/-! ## Listings with something to write -/

/-- In every section there is a row that leaves a column empty. -/
theorem Section.exists_short_row (vars : Variables) (s : Section) :
    ∃ row ∈ s.rows vars, row.length < Listing.columns := by
  obtain ⟨category, entries⟩ := s
  cases entries with
  | nil => exact ⟨_, List.mem_singleton_self _, Nat.lt_of_sub_eq_succ rfl⟩
  | cons first rest => exact ⟨[], List.mem_append_right _ (List.mem_singleton_self _), by decide⟩

/-- A listing writes nothing only if it has no section. -/
theorem Listing.render_eq_nil_iff (palette : Palette) (vars : Variables) (ss : List Section) :
    render palette vars ss = [] ↔ ss = [] := by
  constructor
  · intro hnil
    by_contra hne
    obtain ⟨s, hs⟩ := List.exists_mem_of_ne_nil _ hne
    obtain ⟨row, hrow, hshort⟩ := s.exists_short_row vars
    have hline := Layout.exists_mem_lines columns
      (List.mem_flatMap.mpr ⟨s, hs, hrow⟩ : row ∈ rows vars ss)
    have hcell : Cell.empty ∈ Layout.lineOf columns row 0 :=
      List.mem_append_left _ (List.mem_replicate.mpr ⟨by omega, rfl⟩)
    exact Table.render_ne_nil palette hline hcell (Nat.zero_le _) hnil
  · rintro rfl
    exact Table.render_eq_nil palette fun row hrow => absurd hrow List.not_mem_nil

theorem Entry.sections_eq_nil_iff (entries : List Entry) : sections entries = [] ↔ entries = [] := by
  constructor
  · intro hnil
    have hperm := sections_perm entries
    rw [hnil, List.flatMap_nil] at hperm
    exact hperm.nil_eq.symm
  · rintro rfl
    rfl

/-! ## Runs with something to write -/

namespace World

variable {w : World} {opts : Options}

/-- What a run documents: of all listed makefiles, the last entry of every
target. -/
def documented (w : World) (opts : Options) : Traced (List Entry) := do
  let db ← w.readDatabase (.ofOptions w.makeVariable opts)
  w.collect db opts

/-- Nothing is documented if a run finds no section. -/
theorem result_documented_eq_nil_iff :
    (w.documented opts).result = .ok [] ↔
      ∃ found, (w.findings opts).result = .ok found ∧ found.sections = [] := by
  cases hdb : (w.readDatabase (.ofOptions w.makeVariable opts)).result with
  | error abort =>
    rw [findings, documented, Traced.bind_of_error hdb, Traced.bind_of_error hdb]
    simp
  | ok db =>
    rw [documented, Traced.result_bind hdb]
    cases hentries : (w.collect db opts).result with
    | error abort =>
      rw [findings, Traced.result_bind hdb, Traced.bind_of_error hentries]
      simp
    | ok entries =>
      rw [result_findings hdb hentries]
      simp [Entry.sections_eq_nil_iff]

/-- What a run finds is delivered as some text. It is empty only if the header is
left out and there is no section. -/
theorem exists_delivers_print (w : World) (opts : Options) (found : Findings) :
    ∃ text, Delivers (fun sink => (w.withOutput sink).print opts found) text ∧
      (text = [] ↔ opts.noHeader = true ∧ found.sections = []) := by
  have hheader : Listing.header ≠ [] := by decide +kernel
  refine ⟨_, w.delivers_print opts found, ?_⟩
  rw [List.append_eq_nil_iff, Listing.render_eq_nil_iff]
  cases opts.noHeader <;> simp [hheader]

/-- Where the listing goes does not matter for what is found. -/
theorem findings_withOutput (w : World) (sink : Sink) (opts : Options) :
    (w.withOutput sink).findings opts = w.findings opts := by
  have hfiles : (w.withOutput sink).openFile = w.openFile := rfl
  have hcollect : (w.withOutput sink).collect = w.collect := by
    funext db opts
    exact collect_congr hfiles db opts
  rw [findings, findings, hcollect]
  rfl

variable (hargs : Request.read w.args = .ok (.run opts))

include hargs in
theorem run_withOutput (sink : Sink) :
    (w.withOutput sink).run = (w.withOutput sink).runWith opts := by
  rw [run, withOutput, hargs]

include hargs in
/-- A run that is given up fails wherever the listing goes, and prints nothing. -/
theorem run_withOutput_of_error {abort : Abort} (h : (w.findings opts).result = .error abort)
    (sink : Sink) : (w.withOutput sink).run.code = 1 ∧ (w.withOutput sink).run.stdout = [] := by
  have h' : ((w.withOutput sink).findings opts).result = .error abort := by
    rw [findings_withOutput, h]
  rw [run_withOutput hargs, runWith_of_abort h']
  exact ⟨rfl, rfl⟩

include hargs in
/-- A run that is not given up does as its writing does. -/
theorem run_withOutput_of_ok {found : Findings} (h : (w.findings opts).result = .ok found)
    (sink : Sink) :
    let log := w.log opts (w.findings opts).events
    let inv := Invocation.ofOptions w.makeVariable opts
    let toolArguments := (w.start inv).toOption.map fun _ => inv.arguments
    (w.withOutput sink).run =
      match (w.withOutput sink).print opts found with
      | .ok printed => ⟨0, printed, log, toolArguments⟩
      | .error fault =>
        ⟨1, [], log ++ report "failed to write to stdout".toList [fault.message],
          toolArguments⟩ := by
  rw [run_withOutput hargs, runWith, findings_withOutput]
  rw [h]
  rfl

/-- A run reports that its listing is lost, and only then. -/
structure ReportsLostListing (w : World) (opts : Options) : Prop where
  /-- a run whose output is refused fails if it would fail or print something
  with an output that works -/
  code_eq_one_iff : ∀ fault, (w.withOutput (.refusing fault)).run.code = 1 ↔
    (w.withOutput .working).run.code = 1 ∨ (w.withOutput .working).run.stdout ≠ []
  /-- otherwise it succeeds -/
  otherwise : ∀ fault, (w.withOutput (.refusing fault)).run.code = 1 ∨
    (w.withOutput (.refusing fault)).run.code = 0
  /-- a run that succeeds without printing anything is one without a header in
  which nothing is documented -/
  silent_iff : (w.withOutput .working).run.code = 0 ∧ (w.withOutput .working).run.stdout = [] ↔
    opts.noHeader = true ∧ (w.documented opts).result = .ok []
  /-- what is refused is told behind all else that is told -/
  reported : ∀ fault, (w.withOutput .working).run.stdout ≠ [] →
    (w.withOutput (.refusing fault)).run.stderr = (w.withOutput .working).run.stderr ++
      report "failed to write to stdout".toList [fault.message]
  /-- a run whose output is not passed on fails in any case -/
  stuck : ∀ fault, (w.withOutput (.stuck fault)).run.code = 1

include hargs in
theorem reportsLostListing : w.ReportsLostListing opts := by
  cases hfound : (w.findings opts).result with
  | error abort =>
    have hcode := fun sink => (run_withOutput_of_error hargs hfound sink).1
    have hstdout := fun sink => (run_withOutput_of_error hargs hfound sink).2
    refine ⟨fun fault => ?_, fun fault => .inl (hcode _), ?_, fun fault hne => ?_,
      fun fault => hcode _⟩
    · rw [hcode, hcode]
      simp
    · rw [result_documented_eq_nil_iff, hfound, hcode]
      simp
    · exact absurd (hstdout _) hne
  | ok found =>
    obtain ⟨text, hprint, hempty⟩ := w.exists_delivers_print opts found
    have hworking := run_withOutput_of_ok hargs hfound .working
    rw [hprint.working] at hworking
    have hsilent : (w.withOutput .working).run.code = 0 ∧
        (w.withOutput .working).run.stdout = [] ↔
          opts.noHeader = true ∧ (w.documented opts).result = .ok [] := by
      rw [hworking, result_documented_eq_nil_iff, hfound]
      simp [hempty]
    have hstuck : ∀ fault, (w.withOutput (.stuck fault)).run.code = 1 := by
      intro fault
      rw [run_withOutput_of_ok hargs hfound, hprint.stuck]
    -- of an output that refuses bytes it matters only whether there are any
    have hrefusing := fun fault => run_withOutput_of_ok hargs hfound (.refusing fault)
    simp only [hprint.refusing] at hrefusing
    by_cases htext : text = []
    · simp only [if_pos htext] at hrefusing
      refine ⟨fun fault => ?_, fun fault => .inr ?_, hsilent, fun fault hne => ?_, hstuck⟩
      · rw [hrefusing, hworking]
        simp [htext]
      · rw [hrefusing]
      · rw [hworking] at hne
        exact absurd htext hne
    · simp only [if_neg htext] at hrefusing
      refine ⟨fun fault => ?_, fun fault => .inl ?_, hsilent, fun fault _ => ?_, hstuck⟩
      · rw [hrefusing, hworking]
        simp [htext]
      · rw [hrefusing]
      · rw [hrefusing, hworking]

end World

/-- **Lost output is always reported, and only then.** This is so of every table
that is built step by step, and of every listing. A table whose texts are not
too wide has nothing to write only if there are no cells in it and no columns
asked for, and a listing only if it has no section. It is so as well of every
run whose arguments ask for one, and that has nothing to write only if the
header is left out and nothing is documented. -/
theorem lost_output_is_reported :
    (∀ palette columns steps,
      ReportsLoss (fun sink => Table.session palette sink columns steps) ∧
      ((∀ line ∈ Layout.lines columns (Table.rows steps), ∀ cell ∈ line,
          width cell.text ≤ 65535) →
        (Table.session palette .working columns steps = .ok [] ↔
          ∀ row ∈ Table.rows steps, columns = 0 ∧ row = []))) ∧
    (∀ palette vars ss, ReportsLoss (fun sink => Listing.write palette sink vars ss) ∧
      (Listing.write palette .working vars ss = .ok [] ↔ ss = [])) ∧
    ∀ (w : World) opts, Request.read w.args = .ok (.run opts) → w.ReportsLostListing opts := by
  have hsession := fun palette columns steps =>
    Table.delivers_write palette columns (Table.rows steps)
  have hlisting := Listing.delivers_write
  refine ⟨fun palette columns steps => ⟨(hsession palette columns steps).reportsLoss,
      fun hfits => ?_⟩,
    fun palette vars ss => ⟨(hlisting palette vars ss).reportsLoss, ?_⟩,
    fun w opts hargs => World.reportsLostListing hargs⟩
  · rw [Table.session, (hsession palette columns steps).working, Except.ok.injEq,
      Table.render_eq_nil_iff palette hfits]
  · rw [(hlisting palette vars ss).working, Except.ok.injEq, Listing.render_eq_nil_iff]

/-- A world with these arguments, in which no makefile is listed. -/
def worldOfNothing (args : List Text) : World where
  args := args
  makeVariable := none
  logVariable := none
  noColorVariable := none
  start _ := .ok (Script.run ⟨[], 0⟩)
  openFile _ := .error .notFound
  output := .working

/-- Two rows of no cells write nothing, unless a column is asked for; and with
nothing documented, a run with no room for its output fails if it has a header,
and succeeds without one. -/
theorem lost_output_is_reported_nothing :
    Table.session .colored (.refusing .noSpace) 0 [.endRow, .endRow] = .ok [] ∧
      Table.session .colored (.refusing .noSpace) 1 [.endRow, .endRow] = .error .noSpace ∧
      ((worldOfNothing []).withOutput (.refusing .noSpace)).run.code = 1 ∧
      ((worldOfNothing ["--no-header".toList]).withOutput (.refusing .noSpace)).run.code = 0 := by
  obtain ⟨htables, -, hruns⟩ := lost_output_is_reported
  obtain ⟨hnone, hnoneNil⟩ := htables .colored 0 [.endRow, .endRow]
  obtain ⟨hone, honeNil⟩ := htables .colored 1 [.endRow, .endRow]
  have hsilent : Table.session .colored .working 0 [.endRow, .endRow] = .ok [] :=
    (hnoneNil (by decide)).mpr (by decide)
  have hloud : Table.session .colored .working 1 [.endRow, .endRow] ≠ .ok [] :=
    fun hnil => absurd ((honeNil (by decide)).mp hnil) (by decide)
  have hheader := hruns (worldOfNothing []) .initial rfl
  have hbare := hruns (worldOfNothing ["--no-header".toList])
    { Options.initial with noHeader := true } (by decide +kernel)
  refine ⟨?_, ?_, ?_, ?_⟩
  · refine (hnone.otherwise .noSpace).resolve_left fun hrefused => ?_
    obtain ⟨text, htext, hne⟩ := (hnone.refusing_iff .noSpace).mp hrefused
    exact hne (Except.ok.inj (htext.symm.trans hsilent))
  · refine (hone.refusing_iff .noSpace).mpr ⟨_, rfl, fun hnil => hloud ?_⟩
    exact congrArg Except.ok hnil
  · have hcode : ((worldOfNothing []).withOutput .working).run.code = 0 := by decide +kernel
    refine (hheader.code_eq_one_iff .noSpace).mpr (.inr fun hnil => ?_)
    exact absurd (hheader.silent_iff.mp ⟨hcode, hnil⟩).1 (by decide)
  · obtain ⟨hcode, hstdout⟩ := hbare.silent_iff.mpr ⟨rfl, rfl⟩
    refine (hbare.otherwise .noSpace).resolve_left fun hrefused => ?_
    rcases (hbare.code_eq_one_iff .noSpace).mp hrefused with hfailed | hprinted
    · rw [hcode] at hfailed
      cases hfailed
    · exact hprinted hstdout

end TargetHelp
