import TargetHelp.Proofs.Runs
import TargetHelp.Proofs.Settings

/-!
# How the build tool is started

Settings and the environment say which program is the build tool
(`World.program`) and what it is told (`Setting.told`). The program and what it
is told make up the command line (`World.commandLine`), which is shown in the
log, and in the report if the tool does not start.

A run starts this program once, and nothing else. So worlds in which it does the
same have the same runs, whatever other programs would do, and however the
arguments spell the settings (`World.AgreesAt.runWith_eq`).
`spelled_options_start_tool` puts this together. The report moves the lines of a
sentence after the first to the right, so a command line with line breaks is not
repeated as it is (`not_infix_of_lineBreak`).
-/

namespace TargetHelp

/-! ## Command lines -/

/-- What settings tell the build tool: to print its database, where to work, and
what to read. -/
def Setting.told (settings : List Setting) : List Text :=
  ["-pRrq".toList] ++
    (match valueOf settings .directory with
    | some directory => ["-C".toList, directory]
    | none => []) ++
    (match valueOf settings .file with
    | some file => ["-f".toList, file]
    | none => [])

namespace World

/-- The program that the settings ask for, or else the environment. -/
def program (w : World) (settings : List Setting) : Text :=
  (Setting.valueOf settings .make).getD (w.makeVariable.getD "make".toList)

/-- The program and what it is told, a blank between each two. -/
def commandLine (w : World) (settings : List Setting) : Text :=
  [' '].intercalate (w.program settings :: Setting.told settings)

/-- The invocation of the program. -/
def invocation (w : World) (settings : List Setting) : Invocation where
  program := w.program settings
  directory := Setting.valueOf settings .directory
  file := Setting.valueOf settings .file

theorem ofOptions_ofSettings (w : World) (settings : List Setting) :
    Invocation.ofOptions w.makeVariable (.ofSettings settings) = w.invocation settings := by
  rw [Invocation.ofOptions, Options.ofSettings, invocation, program]
  cases Setting.valueOf settings .make <;> rfl

theorem arguments_invocation (w : World) (settings : List Setting) :
    (w.invocation settings).arguments = Setting.told settings := by
  rw [Invocation.arguments, Setting.told, invocation]
  cases Setting.valueOf settings .directory <;> cases Setting.valueOf settings .file <;> rfl

end World

/-- A command line is shown as the program and its arguments, a blank between
each two. -/
theorem Invocation.display_eq (inv : Invocation) :
    inv.display = [' '].intercalate (inv.program :: inv.arguments) := by
  obtain ⟨program, directory, file⟩ := inv
  cases directory <;> cases file <;> simp [display, arguments, List.intercalate]

theorem World.display_invocation (w : World) (settings : List Setting) :
    (w.invocation settings).display = w.commandLine settings := by
  rw [Invocation.display_eq, arguments_invocation]
  rfl

/-! ## Worlds that agree -/

namespace World

variable {w w' : World} {opts : Options}

/-- One world agrees with another in all that a run sees which starts the build
tool like this: only the arguments may differ, and what else could be started. -/
structure AgreesAt (w' w : World) (inv : Invocation) : Prop where
  /-- the environment asks for the same build tool -/
  makeVariable : w'.makeVariable = w.makeVariable
  /-- the environment asks for the same log filter -/
  logVariable : w'.logVariable = w.logVariable
  /-- the environment asks for the same colours -/
  noColorVariable : w'.noColorVariable = w.noColorVariable
  /-- the build tool does the same -/
  start : w'.start inv = w.start inv
  /-- the files are the same -/
  openFile : w'.openFile = w.openFile
  /-- the listing goes to the same place -/
  output : w'.output = w.output

/-- With the same options, such worlds have the same runs. -/
theorem AgreesAt.runWith_eq (h : w'.AgreesAt w (.ofOptions w.makeVariable opts)) :
    w'.runWith opts = w.runWith opts := by
  have hcolored : w'.isColored = w.isColored := by rw [isColored, isColored, h.noColorVariable]
  have hdatabase : w'.readDatabase (.ofOptions w.makeVariable opts) =
      w.readDatabase (.ofOptions w.makeVariable opts) := by
    rw [readDatabase, readDatabase, h.start]
  have hcollect : w'.collect = w.collect := by
    funext db opts
    exact collect_congr h.openFile db opts
  have hfindings : w'.findings opts = w.findings opts := by
    rw [findings, findings, h.makeVariable, hdatabase, hcollect]
  have hprint : w'.print opts = w.print opts := by
    funext found
    rw [print, print, writeHeader, writeHeader, palette, palette, hcolored, h.output]
  rw [runWith, runWith, hfindings, hprint, log, log, h.makeVariable, h.logVariable, hcolored,
    h.start]

/-! ## What is told about a run -/

/-- What the log says of the start of the build tool: its command line, if the
filter that is in force shows that event. -/
def announcement (w : World) (verbosity : Nat) (shown : Text) : Text :=
  let style : LogStyle := if w.isColored then .styled else .bare
  if (Filter.choose w.logVariable verbosity).shows (.introspecting shown) then
    style.severity .debug ++ " introspecting build tool".toList ++
      style.field ("command".toList, shown) ++ ['\n']
  else []

/-- A log that begins with the start of the build tool begins with its
announcement. -/
theorem log_cons_introspecting (w : World) (opts : Options) (shown : Text) (more : List Event) :
    w.log opts (.introspecting shown :: more) =
      w.announcement opts.verbosity shown ++ w.log opts more := by
  have hline : ∀ style : LogStyle, (Event.introspecting shown).line style =
      style.severity .debug ++ " introspecting build tool".toList ++
        style.field ("command".toList, shown) ++ ['\n'] := by
    intro style
    rw [Event.line, Event.fields, List.flatMap_singleton]
    rfl
  rw [log, log, logText, logText, List.filter_cons, announcement]
  cases (Filter.choose w.logVariable opts.verbosity).shows (.introspecting shown) with
  | true => rw [if_pos rfl, List.flatMap_cons, hline, if_pos rfl]
  | false => rw [if_neg Bool.false_ne_true, if_neg Bool.false_ne_true, List.nil_append]

/-- A run first tells that it starts the build tool. -/
theorem exists_findings_events (w : World) (opts : Options) :
    ∃ more, (w.findings opts).events =
      .introspecting (Invocation.ofOptions w.makeVariable opts).display :: more := by
  obtain ⟨more, hmore⟩ : [.introspecting (Invocation.ofOptions w.makeVariable opts).display] <+:
      (w.findings opts).events :=
    List.IsPrefix.trans (Traced.events_prefix_bind (Traced.tell _) _)
      (Traced.events_prefix_bind ..)
  exact ⟨more, hmore.symm⟩

/-- What is told about a run begins with what its log says. -/
theorem log_prefix_stderr (w : World) (opts : Options) :
    w.log opts (w.findings opts).events <+: (w.runWith opts).stderr := by
  rw [runWith]
  cases (w.findings opts).result with
  | error abort => exact List.prefix_append ..
  | ok found =>
    dsimp only
    cases w.print opts found with
    | error fault => exact List.prefix_append ..
    | ok printed => exact List.prefix_refl _

/-- A build tool that starts gets its arguments, whatever comes of the run. -/
theorem toolArguments_runWith {tool : ToolRun}
    (h : w.start (.ofOptions w.makeVariable opts) = .ok tool) :
    (w.runWith opts).toolArguments =
      some (Invocation.ofOptions w.makeVariable opts).arguments := by
  rw [runWith, h]
  cases (w.findings opts).result with
  | error abort => rfl
  | ok found =>
    dsimp only
    cases w.print opts found <;> rfl

/-- A build tool that does not start is all that a run has to report. -/
theorem runWith_of_error {fault : Fault}
    (h : w.start (.ofOptions w.makeVariable opts) = .error fault) :
    w.runWith opts =
      let shown := (Invocation.ofOptions w.makeVariable opts).display
      ⟨1, [], w.log opts [.introspecting shown] ++
        report "failed to read the make database".toList (Failure.launch shown fault).chain,
        none⟩ := by
  have hdatabase := readDatabase_of_error h
  rw [runWith, findings, Traced.bind_of_error (congrArg Traced.result hdatabase), hdatabase, h]
  rfl

end World

/-- The report of a build tool that does not start: the sentence that names its
command line, as it is laid out, and why it does not. -/
def launchReport (sentence : Text) (fault : Fault) : Text :=
  "Error: failed to read the make database\n\nCaused by:\n    0: ".toList ++ sentence ++
    "\n    1: ".toList ++ hang 7 fault.message ++ ['\n']

theorem numberedCauses_pair (cause cause' : Text) :
    numberedCauses 0 [cause, cause'] =
      "    0: ".toList ++ hang 7 cause ++ "\n    1: ".toList ++ hang 7 cause' ++ ['\n'] := by
  have hfirst : List.replicate (5 - (Text.ofNat 0).length) ' ' ++ Text.ofNat 0 ++ [':', ' '] =
      "    0: ".toList := by decide
  have hsecond : ['\n'] ++ (List.replicate (5 - (Text.ofNat 1).length) ' ' ++ Text.ofNat 1 ++
      [':', ' ']) = "\n    1: ".toList := by decide
  rw [← hsecond, ← hfirst]
  simp only [numberedCauses, List.append_assoc, List.append_nil]

theorem report_launch (shown : Text) (fault : Fault) :
    report "failed to read the make database".toList (Failure.launch shown fault).chain =
      launchReport (hang 7 ("failed to start command '".toList ++ shown ++ ['\''])) fault := by
  have htitle : "Error: ".toList ++ "failed to read the make database".toList ++ ['\n'] ++
      "\nCaused by:\n".toList ++ "    0: ".toList =
        "Error: failed to read the make database\n\nCaused by:\n    0: ".toList := by
    decide +kernel
  have hreport : report "failed to read the make database".toList
      (Failure.launch shown fault).chain =
        "Error: ".toList ++ "failed to read the make database".toList ++ ['\n'] ++
          ("\nCaused by:\n".toList ++
            numberedCauses 0 [(Failure.launch shown fault).message, fault.message]) := rfl
  refine hreport.trans ?_
  rw [numberedCauses_pair]
  simp only [← List.append_assoc]
  exact congrArg (· ++ hang 7 _ ++ "\n    1: ".toList ++ hang 7 _ ++ ['\n']) htitle

/-- A text without line breaks has nothing to be moved right. -/
theorem hang_of_notMem (n : Nat) {t : Text} (h : '\n' ∉ t) : hang n t = t := by
  rw [hang, Text.lines, List.splitOn_eq_singleton h, List.intercalate_singleton]

/-! ## The build tool that settings ask for -/

namespace World

variable {w : World} {settings : List Setting}

/-- The run of a world is what settings ask for. -/
structure StartsTool (w : World) (settings : List Setting) : Prop where
  /-- however the settings are spelled, and in whatever order, the run is the
  same, as long as this program does the same -/
  run_eq : ∀ (w' : World) settings', settings'.Perm settings → Spelled settings' w'.args →
    w'.AgreesAt w (w.invocation settings) → w'.run = w.run
  /-- a program that starts is told what the settings say -/
  told : ∀ tool, w.start (w.invocation settings) = .ok tool →
    w.run.toolArguments = some (Setting.told settings)
  /-- the log begins with the command line, if it shows that -/
  announced : w.announcement (settings.count .louder) (w.commandLine settings) <+: w.run.stderr
  /-- a program that does not start is reported with the command line, the lines
  of which are moved right if there is more than one -/
  reported : ∀ fault, w.start (w.invocation settings) = .error fault →
    let sentence := "failed to start command '".toList ++ w.commandLine settings ++ ['\'']
    w.run = ⟨1, [], w.announcement (settings.count .louder) (w.commandLine settings) ++
      launchReport (hang 7 sentence) fault, none⟩ ∧
      ('\n' ∉ w.commandLine settings → hang 7 sentence = sentence)

end World

/-- **The build tool is started as the settings say.** Let the arguments spell
some settings. Then the run is the same however these are spelled, and in
whatever order. It starts the program that the settings ask for, or else the
environment, and tells it what the settings say. The log and the report of a
program that does not start show this program and what it is told, with a blank
between each two, but the report moves the lines after the first to the
right. -/
theorem spelled_options_start_tool (w : World) {settings : List Setting}
    (h : Spelled settings w.args) : w.StartsTool settings := by
  have hrun : w.run = w.runWith (.ofSettings settings) := by rw [World.run, h.read]
  have hinv := w.ofOptions_ofSettings settings
  refine ⟨fun w' settings' hperm h' hagrees => ?_, fun tool hstart => ?_, ?_,
    fun fault hstart => ⟨?_, fun hbreak => hang_of_notMem 7 ?_⟩⟩
  · rw [hrun, World.run, h'.read,
      Options.ofSettings_eq_of_perm hperm h.toConsistent h'.toConsistent]
    exact World.AgreesAt.runWith_eq (hinv ▸ hagrees)
  · rw [hrun, World.toolArguments_runWith (hinv ▸ hstart), hinv, World.arguments_invocation]
  · obtain ⟨more, hmore⟩ := w.exists_findings_events (.ofSettings settings)
    have hlog := w.log_prefix_stderr (.ofSettings settings)
    rw [hmore, World.log_cons_introspecting, hinv, World.display_invocation] at hlog
    rw [hrun]
    exact (List.prefix_append ..).trans hlog
  · rw [hrun, World.runWith_of_error (hinv ▸ hstart), hinv, World.display_invocation]
    dsimp only
    have hlog : w.log (.ofSettings settings) [] = [] := rfl
    rw [World.log_cons_introspecting, report_launch, hlog, List.append_nil]
    rfl
  · simpa using hbreak

/-- A world with these arguments, in which this comes of every program, and the
environment asks for a program without a name. -/
def worldOfTool (args : List Text) (tool : Except Fault ToolRun) : World where
  args := args
  makeVariable := some []
  logVariable := none
  noColorVariable := some ['1']
  start _ := tool
  openFile _ := .error .notFound
  output := .working

/-- Values may look like other options, and letters may stand together. -/
theorem spelled_options_start_tool_letters :
    let w := worldOfTool ["-vvC=d".toList, "--make".toList, "-".toList, "--file=--make".toList,
      "-v".toList] (.ok (Script.run ⟨[], 0⟩))
    let settings := [.louder, .louder, .value .directory "d".toList, .value .make "-".toList,
      .value .file "--make".toList, .louder]
    Spelled settings w.args ∧ w.StartsTool settings ∧
      w.run.toolArguments = some ["-pRrq".toList, "-C".toList, "d".toList, "-f".toList,
        "--make".toList] ∧
      "DEBUG introspecting build tool command=- -pRrq -C d -f --make\n".toList <+:
        w.run.stderr := by
  intro w settings
  have hdirectory := Phrase.shortEquals (o := .directory) 2 "d".toList rfl
  have hmake := Phrase.longApart .make (t := "-".toList) (.inl rfl)
  have hfile := Phrase.longAttached .file "--make".toList
  have hspells := Spells.cons hdirectory (.cons hmake (.cons hfile (.cons (.letters 0) .nil)))
  have hspelled : Spelled settings w.args :=
    ⟨⟨by decide, fun o _ => by cases o <;> decide⟩, hspells⟩
  have hstarts := spelled_options_start_tool w hspelled
  have hannouncement : w.announcement (settings.count .louder) (w.commandLine settings) =
      "DEBUG introspecting build tool command=- -pRrq -C d -f --make\n".toList := by
    decide +kernel
  exact ⟨hspelled, hstarts, hstarts.told _ rfl, hannouncement ▸ hstarts.announced⟩

/-- The command line of a program that does not start is not repeated as it is
if there is a line break in it. -/
theorem not_infix_of_lineBreak :
    let w := worldOfTool ["--make".toList, "no\nsuch\n".toList] (.error .notFound)
    let settings := [.value .make "no\nsuch\n".toList]
    Spelled settings w.args ∧ w.start (w.invocation settings) = .error .notFound ∧
      ¬ w.commandLine settings <:+: w.run.stderr := by
  intro w settings
  have hmake := Phrase.longApart .make (t := "no\nsuch\n".toList) (.inr (by decide))
  have hspelled : Spelled settings w.args :=
    ⟨⟨by decide, fun o _ => by cases o <;> decide⟩, .cons hmake .nil⟩
  exact ⟨hspelled, rfl, by decide +kernel⟩

end TargetHelp
