import TargetHelp.Proofs.Encoding
import TargetHelp.Proofs.Grouping
import TargetHelp.Proofs.LastOfName
import TargetHelp.Proofs.Runs

/-!
# What a run prints

A run that nothing outside hinders prints one listing: of all entries in all
listed makefiles, in the order of the list, the last one of every name
(`run_eq_merge`). So a target has one row, however often it is documented.

The makefiles are found by their paths. Where the build tool works in another
directory, a listed path leads on from there unless it is absolute (`Resolves`).
-/

namespace TargetHelp

/-! ## Where the makefiles are -/

/-- A listed makefile is found at this path. -/
inductive Resolves : Option Text → Text → Text → Prop where
  /-- no directory is given -/
  | here (file : Text) : Resolves none file file
  /-- an absolute path takes the place of the directory -/
  | absolute (dir file : Text) : Resolves (some dir) ('/' :: file) ('/' :: file)
  /-- the directory ends in a slash, or is empty -/
  | behindSlash {dir file : Text} (hdir : ∀ c ∈ dir.getLast?, c = '/')
      (hfile : file.head? ≠ some '/') : Resolves (some dir) file (dir ++ file)
  /-- the directory does not end in a slash -/
  | withSlash {dir file : Text} {c : Char} (hc : c ≠ '/') (hfile : file.head? ≠ some '/') :
      Resolves (some (dir ++ [c])) file (dir ++ [c] ++ '/' :: file)

/-- The program looks where a makefile is found. -/
theorem Resolves.eq {directory : Option Text} {file path : Text}
    (h : Resolves directory file path) : path = makefilePath directory file := by
  cases h with
  | here => rfl
  | absolute => rfl
  | @behindSlash dir _ hdir hfile =>
    have hslash : (dir = [] || dir.getLast? = some '/') = true := by
      rcases List.eq_nil_or_concat dir with rfl | ⟨dir, c, rfl⟩
      · rfl
      · rw [List.concat_eq_append, List.getLast?_concat] at hdir ⊢
        rw [hdir c rfl]
        simp
    simp only [makefilePath, if_neg hfile, hslash, if_true]
  | @withSlash dir _ c hc hfile =>
    have hslash : (dir ++ [c] = [] || (dir ++ [c]).getLast? = some '/') = false := by
      simp [hc]
    simp only [makefilePath, if_neg hfile, hslash]
    rfl

/-! ## The run -/

/-- The entries of makefiles with these contents, in the order in which they are
listed. All are read against the same database. -/
def Database.documented (db : Database) (files : List Text) (contents : Text → Bytes) :
    List Entry :=
  files.flatMap fun file => Entry.ofLines db (Stream.ofBytes (contents file)).lines

/-- In a listing of a merge, a name has one row if it is documented, and none
otherwise. -/
theorem IsMergeOf.countP_rows {merged entries : List Entry} (h : IsMergeOf merged entries)
    (vars : Variables) (name : Text) :
    (Listing.rows vars (Entry.sections merged)).countP (·.IsOf name) =
      if name ∈ entries.map Entry.name then 1 else 0 := by
  have hnodup : (merged.map Entry.name).Nodup := by
    rw [List.Nodup, List.pairwise_map]
    refine h.ascending.imp fun {a b} hlt heq => ?_
    have hself : compare b.name b.name = .eq := Std.ReflCmp.compare_self
    rw [heq, hself] at hlt
    cases hlt
  have hmem : name ∈ merged.map Entry.name ↔ name ∈ entries.map Entry.name := by
    constructor
    · intro hname
      obtain ⟨e, he, rfl⟩ := List.mem_map.mp hname
      exact List.mem_map_of_mem ((h.mem_iff e).mp he).mem
    · intro hname
      obtain ⟨e, rfl, he⟩ := exists_lastOfName hname
      exact List.mem_map_of_mem ((h.mem_iff e).mpr he)
  have hcount : merged.countP (·.name = name) = (merged.map Entry.name).count name := by
    rw [List.count, List.countP_map]
    exact List.countP_congr fun e _ => by simp
  rw [Listing.countP_rows_sections, hcount, hnodup.count]
  simp only [hmem]

/-- **A run lists the last entry of every name.** If the arguments ask for a
run, the build tool starts, its database arrives, every makefile that this lists
can be read, and the output works, then the run succeeds. What it prints is the header,
unless it is to be left out, and the listing of a merge of all entries in all
these makefiles, with one row for every name that is documented. -/
theorem run_eq_merge (w : World) {opts : Options} {tool : ToolRun} {contents : Text → Bytes}
    (hargs : Request.read w.args = .ok (.run opts))
    (hstart : w.start (.ofOptions w.makeVariable opts) = .ok tool)
    (harrives : tool.output.fault = none)
    (hfiles : ∀ file ∈ tool.database.vars.values opts.listName, ∃ path,
      Resolves opts.directory file path ∧ w.openFile path = .ok (.ofBytes (contents file)))
    (hout : w.output = .working) :
    ∃ merged : List Entry,
      IsMergeOf merged
        (tool.database.documented (tool.database.vars.values opts.listName) contents) ∧
      w.run.code = 0 ∧
      w.run.stdout = (if opts.noHeader then [] else Listing.header) ++
        Listing.render w.palette tool.database.vars (Entry.sections merged) ∧
      ∀ name, (Listing.rows tool.database.vars (Entry.sections merged)).countP (·.IsOf name) =
        if name ∈ (tool.database.documented (tool.database.vars.values opts.listName)
          contents).map Entry.name then 1 else 0 := by
  have hscan : ∀ file ∈ tool.database.vars.values opts.listName,
      (w.scanMakefile tool.database (makefilePath opts.directory file)).result =
        .ok (Entry.ofLines tool.database (Stream.ofBytes (contents file)).lines) := by
    intro file hfile
    obtain ⟨path, hpath, hopen⟩ := hfiles file hfile
    rw [hpath.eq] at hopen
    exact World.result_scanMakefile _ hopen
  have hfound := World.result_findings (World.result_readDatabase hstart harrives)
    (World.result_collect _ opts hscan)
  obtain ⟨hcode, hstdout⟩ := World.run_of_findings hargs hfound hout
  have hmerge := Entry.isMergeOf_latest
    (tool.database.documented (tool.database.vars.values opts.listName) contents)
  exact ⟨_, hmerge, hcode, hstdout, fun name => hmerge.countP_rows _ name⟩

/-- Two makefiles that document a target under different categories, for a world
in which one of them is listed twice. -/
def twoMakefiles (file : Text) : Bytes :=
  Utf8.encode (if file = ['a'] then "## @category A\n## one\nx:\n".toList
    else "## two\nx:\n## three\ny:\n".toList)

/-- What a build tool prints that lists one of them twice. -/
def toolOfTwo : ToolRun :=
  Script.run ⟨Utf8.encode "MAKEFILE_LIST := a /b a\nx:\ny:\n".toList, 2⟩

/-- A world with these makefiles, one below the directory that the build tool
works in, and one at an absolute path. -/
def worldOfTwo : World where
  args := [['-', 'C'], ['d'], "--no-header".toList]
  makeVariable := none
  logVariable := none
  noColorVariable := none
  start _ := .ok toolOfTwo
  openFile path :=
    if path = "d/a".toList then .ok (.ofBytes (twoMakefiles ['a']))
    else if path = "/b".toList then .ok (.ofBytes (twoMakefiles "/b".toList))
    else .error .notFound
  output := .working

/-- The makefile that is listed last has the last word, under its category. -/
theorem run_eq_merge_worldOfTwo :
    ∃ merged : List Entry,
      IsMergeOf merged
        [⟨['x'], ['A'], "one".toList⟩, ⟨['x'], [], "two".toList⟩, ⟨['y'], [], "three".toList⟩,
          ⟨['x'], ['A'], "one".toList⟩] ∧
      worldOfTwo.run.code = 0 ∧
      worldOfTwo.run.stdout =
        Listing.render .colored toolOfTwo.database.vars (Entry.sections merged) := by
  let opts : Options := { Options.initial with directory := some ['d'], noHeader := true }
  have hlist : toolOfTwo.database.vars.values opts.listName = [['a'], ['/', 'b'], ['a']] := by
    decide +kernel
  have hdocumented : toolOfTwo.database.documented (toolOfTwo.database.vars.values opts.listName)
      twoMakefiles = [⟨['x'], ['A'], "one".toList⟩, ⟨['x'], [], "two".toList⟩,
        ⟨['y'], [], "three".toList⟩, ⟨['x'], ['A'], "one".toList⟩] := by
    decide +kernel
  have hfiles : ∀ file ∈ toolOfTwo.database.vars.values opts.listName, ∃ path,
      Resolves opts.directory file path ∧
        worldOfTwo.openFile path = .ok (.ofBytes (twoMakefiles file)) := by
    rw [hlist]
    intro file hfile
    simp only [List.mem_cons, List.not_mem_nil, or_false] at hfile
    rcases hfile with rfl | rfl | rfl
    · exact ⟨_, @Resolves.withSlash [] _ 'd' (by decide) (by decide), by decide⟩
    · exact ⟨_, .absolute _ _, by decide⟩
    · exact ⟨_, @Resolves.withSlash [] _ 'd' (by decide) (by decide), by decide⟩
  have hargs : Request.read worldOfTwo.args = .ok (.run opts) := by decide +kernel
  obtain ⟨merged, hmerge, hcode, hstdout, -⟩ := run_eq_merge worldOfTwo hargs rfl rfl hfiles rfl
  have hpalette : worldOfTwo.palette = .colored := rfl
  rw [hdocumented] at hmerge
  rw [if_pos rfl, List.nil_append, hpalette] at hstdout
  exact ⟨merged, hmerge, hcode, hstdout⟩

end TargetHelp
