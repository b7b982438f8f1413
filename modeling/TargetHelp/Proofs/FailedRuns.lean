import TargetHelp.Proofs.Encoding
import TargetHelp.Proofs.MergedRun

/-!
# Runs that fail

Nothing is printed before all that can fail has not failed, so a run that fails
prints nothing. If what the build tool prints breaks off, the run is given up for
that reason alone. If it arrives, and a listed makefile cannot be read, the run is
given up at the first such makefile (`World.FirstUnreadable`), whose path the
report names, and what stands behind it in the list does not matter: the run sees
of the makefiles only what comes of opening and reading them (`World.content`),
one after the other, up to that first one (`scanMakefiles_eq_of_agree`).

`failed_run_prints_nothing` says all this. Two such runs come to the same, up to
what the log tells about the end of the build tool; that they do not come to the
same in every respect is shown by `run_ne_of_status`.
-/

namespace TargetHelp

/-! ## What is seen of the makefiles -/

namespace World

/-- What comes of opening the file at a path and reading it to its end. -/
def content (w : World) (path : Text) : Except Failure Bytes :=
  match w.openFile path with
  | .error fault => .error (.openFile path fault)
  | .ok s =>
    match s.fault with
    | some fault => .error (.read path fault)
    | none => .ok s.data

/-- What cannot be read was not opened, or broke off. -/
theorem message_of_content {w : World} {path : Text} {failure : Failure}
    (h : w.content path = .error failure) :
    failure.message = "failed to open ".toList ++ path ∨
      failure.message = "failed to read ".toList ++ path := by
  rw [content] at h
  split at h
  · cases h
    exact .inl rfl
  · split at h
    · cases h
      exact .inr rfl
    · cases h

/-- Scanning a makefile takes its content, and nothing else of the outside. -/
theorem scanMakefile_eq (w : World) (db : Database) (path : Text) :
    w.scanMakefile db path =
      match w.content path with
      | .ok data =>
        let entries := Entry.ofLines db (Stream.ofBytes data).lines
        ⟨[.makefileRead path entries.length], .ok entries⟩
      | .error failure => Traced.giveUp ("failed to scan ".toList ++ path) failure := by
  have hread : ∀ s : Stream, Entry.read db path s =
      match s.fault with
      | some fault => .error (.read path fault)
      | none => .ok (Entry.ofLines db s.lines) := by
    intro s
    rw [Entry.read, Stream.readLines]
    cases s.fault <;> rfl
  rw [scanMakefile, content]
  cases w.openFile path with
  | error fault => rfl
  | ok s =>
    obtain ⟨data, fault⟩ := s
    cases fault <;> rfl

/-- At this path is the first of some makefiles that cannot be read. -/
structure FirstUnreadable (w : World) (paths before : List Text) (path : Text)
    (failure : Failure) : Prop where
  /-- these makefiles stand before it -/
  listed : ∃ after, paths = before ++ path :: after
  /-- all of them can be read -/
  readable : ∀ p ∈ before, ∃ data, w.content p = .ok data
  /-- it cannot be read -/
  unreadable : w.content path = .error failure

/-- If a makefile cannot be read, one is the first. -/
theorem exists_firstUnreadable {w : World} {paths : List Text}
    (h : ∃ path ∈ paths, ∃ failure, w.content path = .error failure) :
    ∃ before path failure, w.FirstUnreadable paths before path failure := by
  induction paths with
  | nil =>
    obtain ⟨_, hmem, -⟩ := h
    cases hmem
  | cons p paths ih =>
    cases hp : w.content p with
    | error failure => exact ⟨[], p, failure, ⟨paths, rfl⟩, by simp, hp⟩
    | ok data =>
      obtain ⟨path, hmem, failure, hfailure⟩ := h
      rcases List.mem_cons.mp hmem with rfl | hmem
      · rw [hp] at hfailure
        cases hfailure
      · obtain ⟨before, path, failure, ⟨after, hlisted⟩, hreadable, hunreadable⟩ :=
          ih ⟨path, hmem, failure, hfailure⟩
        refine ⟨p :: before, path, failure, ⟨after, ?_⟩, ?_, hunreadable⟩
        · rw [hlisted, List.cons_append]
        · intro q hq
          rcases List.mem_cons.mp hq with rfl | hq
          · exact ⟨data, hp⟩
          · exact hreadable q hq

end World

/-! ## Giving up -/

namespace World

variable {w w' : World}

/-- The abort of a run that cannot read the makefile at this path. -/
def unreadable (path : Text) (failure : Failure) : Abort :=
  ⟨"failed to scan ".toList ++ path, failure.chain⟩

/-- A makefile that cannot be read is given up. -/
theorem result_scanMakefile_of_error (db : Database) {path : Text} {failure : Failure}
    (h : w.content path = .error failure) :
    (w.scanMakefile db path).result = .error (unreadable path failure) := by
  rw [scanMakefile_eq, h]
  rfl

/-- The scan of some makefiles is given up at the first that cannot be read. -/
theorem result_scanMakefiles_of_firstUnreadable (db : Database) {paths before : List Text}
    {path : Text} {failure : Failure} (h : w.FirstUnreadable paths before path failure) :
    (w.scanMakefiles db paths).result = .error (unreadable path failure) := by
  obtain ⟨⟨after, rfl⟩, hreadable, hunreadable⟩ := h
  induction before with
  | nil =>
    rw [List.nil_append, scanMakefiles,
      Traced.bind_of_error (result_scanMakefile_of_error db hunreadable)]
  | cons p before ih =>
    obtain ⟨data, hdata⟩ := hreadable p (List.mem_cons_self ..)
    have hscan : (w.scanMakefile db p).result =
        .ok (Entry.ofLines db (Stream.ofBytes data).lines) := by
      rw [scanMakefile_eq, hdata]
    have hrest := ih fun q hq => hreadable q (List.mem_cons_of_mem _ hq)
    rw [List.cons_append, scanMakefiles, Traced.result_bind hscan, Traced.bind_of_error hrest]

/-- What stands behind the first makefile that cannot be read does not matter:
the scan is the same in every world in which the makefiles up to that one have
the same contents. -/
theorem scanMakefiles_eq_of_agree (db : Database) {paths before : List Text} {path : Text}
    {failure : Failure} (h : w.FirstUnreadable paths before path failure)
    (hagree : ∀ p ∈ before ++ [path], w'.content p = w.content p) :
    w'.scanMakefiles db paths = w.scanMakefiles db paths := by
  obtain ⟨⟨after, rfl⟩, -, hunreadable⟩ := h
  have hscan : ∀ p ∈ before ++ [path], w'.scanMakefile db p = w.scanMakefile db p := by
    intro p hp
    rw [scanMakefile_eq, scanMakefile_eq, hagree p hp]
  clear hagree
  induction before with
  | nil =>
    have hpath := result_scanMakefile_of_error db hunreadable
    rw [List.nil_append, scanMakefiles, scanMakefiles, hscan path (by simp),
      Traced.bind_of_error hpath, Traced.bind_of_error hpath]
  | cons p before ih =>
    rw [List.cons_append, scanMakefiles, scanMakefiles, hscan p (by simp),
      ih fun q hq => hscan q (List.mem_cons_of_mem _ hq)]

/-- Up to the first makefile that cannot be read, such a world has the same
makefiles. -/
theorem FirstUnreadable.of_agree {paths before : List Text} {path : Text} {failure : Failure}
    (h : w.FirstUnreadable paths before path failure)
    (hagree : ∀ p ∈ before ++ [path], w'.content p = w.content p) :
    w'.FirstUnreadable paths before path failure := by
  refine ⟨h.listed, fun p hp => ?_, ?_⟩
  · obtain ⟨data, hdata⟩ := h.readable p hp
    exact ⟨data, (hagree p (List.mem_append_left _ hp)).trans hdata⟩
  · exact (hagree path (List.mem_append_right _ (List.mem_singleton_self _))).trans h.unreadable

/-! ## Failed runs -/

/-- The paths at which a run looks for the makefiles that a database lists. -/
def listedPaths (db : Database) (opts : Options) : List Text :=
  (db.vars.values opts.listName).map (makefilePath opts.directory)

/-- Collecting is scanning the listed makefiles, if there are any. -/
theorem collect_eq {db : Database} {opts : Options} (h : listedPaths db opts ≠ []) :
    w.collect db opts =
      (w.scanMakefiles db (listedPaths db opts) >>= fun found => pure (Entry.latest found)) := by
  rw [listedPaths, Variables.values] at h ⊢
  rw [collect, Database.makefilePaths?]
  cases hlist : db.vars.get? opts.listName with
  | none =>
    rw [hlist] at h
    exact absurd rfl h
  | some files => rfl

theorem FirstUnreadable.ne_nil {paths before : List Text} {path : Text} {failure : Failure}
    (h : w.FirstUnreadable paths before path failure) : paths ≠ [] := by
  obtain ⟨after, hlisted⟩ := h.listed
  rw [hlisted]
  exact List.append_ne_nil_of_right_ne_nil before (List.cons_ne_nil path after)

/-- The report of a run that cannot read a listed makefile names that makefile,
and there is nothing else to be seen of the run but its log. -/
theorem run_of_firstUnreadable {opts : Options} {tool : ToolRun} {before : List Text}
    {path : Text} {failure : Failure} (hargs : Request.read w.args = .ok (.run opts))
    (hstart : w.start (.ofOptions w.makeVariable opts) = .ok tool)
    (harrives : tool.output.fault = none)
    (h : w.FirstUnreadable (listedPaths tool.database opts) before path failure) :
    w.run = ⟨1, [], w.log opts (w.findings opts).events ++ (unreadable path failure).report,
      some (Invocation.ofOptions w.makeVariable opts).arguments⟩ := by
  have hcollect : (w.collect tool.database opts).result = .error (unreadable path failure) := by
    rw [collect_eq h.ne_nil,
      Traced.bind_of_error (result_scanMakefiles_of_firstUnreadable tool.database h)]
  have hfound : (w.findings opts).result = .error (unreadable path failure) := by
    rw [findings, Traced.result_bind (result_readDatabase hstart harrives),
      Traced.bind_of_error hcollect]
  rw [run, hargs]
  dsimp only
  rw [runWith_of_abort hfound, hstart]
  rfl

/-- The report of a run in which the build tool's output breaks off names that
output, and there is nothing else to be seen of the run but its log. -/
theorem run_of_broken {opts : Options} {tool : ToolRun} {fault : Fault}
    (hargs : Request.read w.args = .ok (.run opts))
    (hstart : w.start (.ofOptions w.makeVariable opts) = .ok tool)
    (hbroken : tool.output.fault = some fault) :
    w.run = ⟨1, [], w.log opts (w.findings opts).events ++
      report "failed to read the make database".toList
        (Failure.read (Invocation.ofOptions w.makeVariable opts).outputName fault).chain,
      some (Invocation.ofOptions w.makeVariable opts).arguments⟩ := by
  have hdatabase := readDatabase_of_broken hstart hbroken
  have hfound : (w.findings opts).result = .error ⟨"failed to read the make database".toList,
      (Failure.read (Invocation.ofOptions w.makeVariable opts).outputName fault).chain⟩ := by
    rw [findings, Traced.bind_of_error (congrArg Traced.result hdatabase)]
  rw [run, hargs]
  dsimp only
  rw [runWith_of_abort hfound, hstart]
  rfl

/-- Two worlds have the same arguments and the same environment. -/
structure AsksLike (w' w : World) : Prop where
  /-- the arguments are the same -/
  args : w'.args = w.args
  /-- the environment asks for the same build tool -/
  makeVariable : w'.makeVariable = w.makeVariable
  /-- the environment asks for the same log filter -/
  logVariable : w'.logVariable = w.logVariable
  /-- the environment asks for the same colours -/
  noColorVariable : w'.noColorVariable = w.noColorVariable

/-- What the log says of some events is a matter of the arguments and the
environment. -/
theorem AsksLike.log_eq (h : w'.AsksLike w) : w'.log = w.log := by
  funext opts events
  rw [log, log, isColored, isColored, h.logVariable, h.noColorVariable]

/-- Up to the first makefile that cannot be read, the same happens in such
worlds, if the build tool did the same. -/
theorem findings_eq_of_agree {opts : Options} {tool tool' : ToolRun} {before : List Text}
    {path : Text} {failure : Failure} (hmake : w'.makeVariable = w.makeVariable)
    (hstart : w.start (.ofOptions w.makeVariable opts) = .ok tool)
    (hstart' : w'.start (.ofOptions w.makeVariable opts) = .ok tool')
    (harrives : tool.output.fault = none) (houtput : tool'.output = tool.output)
    (hended : tool'.ended = tool.ended)
    (h : w.FirstUnreadable (listedPaths tool.database opts) before path failure)
    (hagree : ∀ p ∈ before ++ [path], w'.content p = w.content p) :
    w'.findings opts = w.findings opts := by
  have harrives' : tool'.output.fault = none := houtput ▸ harrives
  have hdatabase : w'.readDatabase (.ofOptions w.makeVariable opts) =
      w.readDatabase (.ofOptions w.makeVariable opts) := by
    rw [readDatabase_of_arrives hstart harrives, readDatabase_of_arrives hstart' harrives',
      ToolRun.database, ToolRun.database, houtput, hended]
  have hresult := result_readDatabase hstart harrives
  have hcollect : w'.collect tool.database opts = w.collect tool.database opts := by
    rw [collect_eq h.ne_nil, collect_eq h.ne_nil, scanMakefiles_eq_of_agree _ h hagree]
  rw [findings, findings, hmake, hdatabase, Traced.bind_of_ok hresult, Traced.bind_of_ok hresult,
    hcollect]

/-- A run is given up for this failure: it fails, prints nothing, and ends its log
with a report of the failure. -/
structure GivesUp (w : World) (opts : Options) (outermost : Text) (failure : Failure) : Prop where
  /-- the run fails -/
  code : w.run.code = 1
  /-- nothing is printed -/
  stdout : w.run.stdout = []
  /-- the report says what the run was about, and what could not be done and why -/
  stderr : ∃ events, w.run.stderr = w.log opts events ++
    report outermost [failure.message, failure.fault.message]

theorem GivesUp.of_run_eq {opts : Options} {outermost : Text} {failure : Failure}
    {events : List Event} {toolArguments : Option (List Text)}
    (h : w.run = ⟨1, [], w.log opts events ++ report outermost failure.chain, toolArguments⟩) :
    w.GivesUp opts outermost failure := by
  refine ⟨?_, ?_, events, ?_⟩
  · rw [h]
  · rw [h]
  · rw [h]
    rfl

/-- A run is given up if the build tool's output breaks off. -/
theorem givesUp_of_broken {opts : Options} {tool : ToolRun} {fault : Fault}
    (hargs : Request.read w.args = .ok (.run opts))
    (hstart : w.start (.ofOptions w.makeVariable opts) = .ok tool)
    (hbroken : tool.output.fault = some fault) :
    w.GivesUp opts "failed to read the make database".toList
      (.read (Invocation.ofOptions w.makeVariable opts).outputName fault) :=
  .of_run_eq (run_of_broken hargs hstart hbroken)

/-- A run is given up at the first makefile that cannot be read. -/
theorem FirstUnreadable.givesUp {opts : Options} {tool : ToolRun} {before : List Text}
    {path : Text} {failure : Failure}
    (h : w.FirstUnreadable (listedPaths tool.database opts) before path failure)
    (hargs : Request.read w.args = .ok (.run opts))
    (hstart : w.start (.ofOptions w.makeVariable opts) = .ok tool)
    (harrives : tool.output.fault = none) :
    w.GivesUp opts ("failed to scan ".toList ++ path) failure :=
  .of_run_eq (run_of_firstUnreadable hargs hstart harrives h)

/-- With an output that works, a run that does not succeed prints nothing. -/
theorem stdout_eq_nil_of_code (hout : w.output = .working) (h : w.run.code ≠ 0) :
    w.run.stdout = [] := by
  rw [run] at h ⊢
  split at h
  · rfl
  · exact absurd rfl h
  · next opts _ =>
    rw [runWith] at h ⊢
    cases hfound : (w.findings opts).result with
    | error abort => rfl
    | ok found =>
      have hprint := print_of_working hout opts found
      simp only [hfound, hprint] at h
      exact absurd rfl h

end World

/-- A listed makefile is looked for at some path. -/
theorem resolves_makefilePath (directory : Option Text) (file : Text) :
    Resolves directory file (makefilePath directory file) := by
  cases directory with
  | none => exact .here file
  | some dir =>
    rw [makefilePath]
    split
    · next habsolute =>
      obtain ⟨rest, rfl⟩ := List.head?_eq_some_iff.mp habsolute
      exact .absolute dir rest
    · next hfile =>
      split
      · next hslash =>
        refine .behindSlash (fun c hc => ?_) hfile
        simp only [Bool.or_eq_true, decide_eq_true_eq] at hslash
        rcases hslash with rfl | hlast
        · cases hc
        · rw [hlast] at hc
          exact (Option.some.inj hc).symm
      · next hslash =>
        rcases List.eq_nil_or_concat dir with rfl | ⟨dir, c, rfl⟩
        · simp at hslash
        · rw [List.concat_eq_append] at hslash ⊢
          refine .withSlash (fun hc => hslash ?_) hfile
          simp [hc]

/-- Listed makefiles are looked for at one path each. -/
theorem forall₂_resolves_iff {directory : Option Text} {files paths : List Text} :
    List.Forall₂ (Resolves directory) files paths ↔ files.map (makefilePath directory) = paths := by
  have hresolves : Resolves directory = fun file path => makefilePath directory file = path := by
    funext file path
    refine propext ⟨fun h => h.eq.symm, ?_⟩
    rintro rfl
    exact resolves_makefilePath directory file
  rw [hresolves, ← List.forall₂_map_left_iff, List.forall₂_eq_eq_eq]

/-- **A run that fails prints nothing.** With an output that works, a run that
does not succeed prints nothing at all. Let the arguments ask for a run, and the
build tool start. If what it prints breaks off, then the run is given up, and the
report names the command line. If it arrives, there are paths at which the listed
makefiles are looked for; if one of these makefiles cannot be read, then the run
is given up at the first. So is every run that has the same arguments, the same
environment and the same database printed, and finds the same makefiles up to that
one; and it is the same run in every respect if the build tool ended in the same
way. -/
theorem failed_run_prints_nothing (w : World) (hout : w.output = .working) :
    (w.run.code ≠ 0 → w.run.stdout = []) ∧
    ∀ opts tool, Request.read w.args = .ok (.run opts) →
      w.start (.ofOptions w.makeVariable opts) = .ok tool →
      (∀ fault, tool.output.fault = some fault →
        w.GivesUp opts "failed to read the make database".toList
          (.read (Invocation.ofOptions w.makeVariable opts).outputName fault)) ∧
      (tool.output.fault = none →
        ∃ paths, List.Forall₂ (Resolves opts.directory)
            (tool.database.vars.values opts.listName) paths ∧
          ((∃ path ∈ paths, ∃ failure, w.content path = .error failure) →
            ∃ before path failure, w.FirstUnreadable paths before path failure ∧
              (failure.message = "failed to open ".toList ++ path ∨
                failure.message = "failed to read ".toList ++ path) ∧
              w.GivesUp opts ("failed to scan ".toList ++ path) failure ∧
              ∀ (w' : World) tool', w'.AsksLike w →
                w'.start (.ofOptions w.makeVariable opts) = .ok tool' →
                tool'.output = tool.output →
                (∀ p ∈ before ++ [path], w'.content p = w.content p) →
                w'.GivesUp opts ("failed to scan ".toList ++ path) failure ∧
                  w'.run.toolArguments = w.run.toolArguments ∧
                  (tool'.ended = tool.ended → w'.run = w.run))) := by
  refine ⟨World.stdout_eq_nil_of_code hout, fun opts tool hargs hstart =>
    ⟨fun fault => World.givesUp_of_broken hargs hstart, fun harrives =>
      ⟨World.listedPaths tool.database opts, ?_, fun hsome => ?_⟩⟩⟩
  · exact forall₂_resolves_iff.mpr rfl
  · obtain ⟨before, path, failure, hfirst⟩ := World.exists_firstUnreadable hsome
    refine ⟨before, path, failure, hfirst, World.message_of_content hfirst.unreadable,
      hfirst.givesUp hargs hstart harrives, ?_⟩
    intro w' tool' hasks hstart' houtput hagree
    have harrives' : tool'.output.fault = none := houtput ▸ harrives
    have hdatabase : tool'.database = tool.database := by
      rw [ToolRun.database, ToolRun.database, houtput]
    have hargs' : Request.read w'.args = .ok (.run opts) := by rw [hasks.args, hargs]
    have hfirst' : w'.FirstUnreadable (World.listedPaths tool'.database opts) before path failure :=
      hdatabase ▸ hfirst.of_agree hagree
    have hstartOwn : w'.start (.ofOptions w'.makeVariable opts) = .ok tool' := by
      rw [hasks.makeVariable, hstart']
    have hrun := World.run_of_firstUnreadable hargs hstart harrives hfirst
    have hrun' := World.run_of_firstUnreadable hargs' hstartOwn harrives' hfirst'
    refine ⟨hfirst'.givesUp hargs' hstartOwn harrives', ?_, fun hended => ?_⟩
    · rw [hrun, hrun', hasks.makeVariable]
    · -- then the build tool did the same, and so did the run up to that makefile
      have hfindings := World.findings_eq_of_agree hasks.makeVariable hstart hstart' harrives
        houtput hended hfirst hagree
      rw [hrun, hrun', hasks.log_eq, hasks.makeVariable, hfindings]

/-- A world in which the build tool ends like this, and lists three makefiles before
its output ends or breaks off: one that documents a target, a directory, and one
that does not exist. -/
def worldOfDirectory (fault : Option Fault) (ended : ToolEnd) : World where
  args := [['-', 'v']]
  makeVariable := none
  logVariable := none
  noColorVariable := none
  start _ := .ok ⟨⟨Utf8.encode "MAKEFILE_LIST := a d b\nx:\n".toList, fault⟩, ended, ended⟩
  openFile path :=
    if path = ['a'] then .ok (.ofBytes (Utf8.encode "## one\nx:\n".toList))
    else if path = ['d'] then .ok (.broken [] .isADirectory)
    else .error .notFound
  output := .working

/-- It is given up at the directory, however the build tool ends, or at the output of
the build tool, if that breaks off. -/
theorem failed_run_prints_nothing_directory :
    let w := worldOfDirectory none (.exited 0)
    let killed := worldOfDirectory none (.signaled 9 false)
    let broken := worldOfDirectory (some .isADirectory) (.exited 0)
    ∃ opts, Request.read w.args = .ok (.run opts) ∧
      w.GivesUp opts "failed to scan d".toList (.read ['d'] .isADirectory) ∧
      killed.GivesUp opts "failed to scan d".toList (.read ['d'] .isADirectory) ∧
      broken.GivesUp opts "failed to read the make database".toList
        (.read "output of 'make -pRrq'".toList .isADirectory) := by
  intro w killed broken
  let opts : Options := { Options.initial with verbosity := 1 }
  have hargs : Request.read w.args = .ok (.run opts) := by decide +kernel
  obtain ⟨-, hruns⟩ := failed_run_prints_nothing w rfl
  obtain ⟨-, hread⟩ := hruns opts _ hargs rfl
  obtain ⟨paths, hpaths, hfails⟩ := hread rfl
  obtain ⟨-, hruns'⟩ := failed_run_prints_nothing broken rfl
  obtain ⟨hbroken, -⟩ := hruns' opts _ hargs rfl
  have hlist : (ToolRun.database ⟨.ofBytes (Utf8.encode "MAKEFILE_LIST := a d b\nx:\n".toList),
      .exited 0, .exited 0⟩).vars.values opts.listName = [['a'], ['d'], ['b']] := by
    decide +kernel
  have hpaths' : List.Forall₂ (Resolves opts.directory) [['a'], ['d'], ['b']] paths :=
    hlist ▸ hpaths
  obtain rfl : [['a'], ['d'], ['b']] = paths := forall₂_resolves_iff.mp hpaths'
  obtain ⟨before, path, failure, ⟨⟨after, hlisted⟩, hreadable, hunreadable⟩, -, hgives, hothers⟩ :=
    hfails ⟨['d'], by simp, .read ['d'] .isADirectory, rfl⟩
  rcases before with _ | ⟨p, _ | ⟨q, before⟩⟩
  · -- the first makefile can be read
    obtain rfl := (List.cons.inj hlisted).1
    cases hunreadable
  · obtain rfl := (List.cons.inj (List.cons.inj hlisted).2).1
    cases hunreadable
    obtain ⟨hgives', -⟩ := hothers killed _ ⟨rfl, rfl, rfl, rfl⟩ rfl rfl fun _ _ => rfl
    exact ⟨opts, hargs, hgives, hgives', hbroken .isADirectory rfl⟩
  · -- the second cannot
    obtain rfl := (List.cons.inj (List.cons.inj hlisted).2).1
    obtain ⟨data, hdata⟩ := hreadable ['d'] (by simp)
    cases hdata

/-- The answer of a run that is given up may depend on the build tool's status,
since the log may tell it. -/
theorem run_ne_of_status :
    let w := worldOfDirectory none (.exited 0)
    let w' := worldOfDirectory none (.exited 1)
    w'.AsksLike w ∧ (∀ path, w'.content path = w.content path) ∧
      (∀ inv, (w'.start inv).map ToolRun.output = (w.start inv).map ToolRun.output) ∧
      w.run.code = 1 ∧ w'.run ≠ w.run := by
  intro w w'
  refine ⟨⟨rfl, rfl, rfl, rfl⟩, fun _ => rfl, fun _ => rfl, ?_, ?_⟩
  · decide +kernel
  · decide +kernel

end TargetHelp
