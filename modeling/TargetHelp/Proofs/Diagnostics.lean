import TargetHelp.Proofs.Encoding
import TargetHelp.Proofs.Reading
import TargetHelp.Proofs.Runs

/-!
# What diagnostics do not change

The log tells how a run went, and how much of it is told is asked for by the
arguments and the environment. None of this changes what the run does. Two runs
that find the same outside, but for the end of the build tool, the wanted log
filter and requests for log lines in front of the arguments
(`World.DiffersInDiagnostics`), end with the same code, print the same and give
the build tool the same arguments (`diagnostics_change_nothing`).
-/

namespace TargetHelp

namespace World

variable {w w' : World}

/-- One world differs from another only in diagnostics: there may be requests
for log lines in front of its arguments, the build tool may end in another way,
with another status say, and the environment may ask for any log filter. -/
structure DiffersInDiagnostics (w' w : World) : Prop extends w'.AnswersLike w where
  /-- the arguments are the same behind some requests for log lines -/
  args : ∃ n, w'.args = List.replicate n ['-', 'v'] ++ w.args
  /-- the listing goes to the same place -/
  output : w'.output = w.output

/-- The build tool gets its arguments in both worlds or in neither. -/
theorem AnswersLike.map_start {α : Type} (h : w'.AnswersLike w) (inv : Invocation) (a : α) :
    ((w'.start inv).toOption.map fun _ => a) = (w.start inv).toOption.map fun _ => a := by
  rcases h.start_cases inv with ⟨fault, hw', hw⟩ | ⟨tool', tool, hw', hw, -⟩
  · rw [hw', hw]
  · rw [hw', hw]
    rfl

/-- Two outcomes are the same but for what was told about the runs. -/
structure SameButLog (x' x : Outcome) : Prop where
  /-- the exit codes are the same -/
  code : x'.code = x.code
  /-- what was printed is the same -/
  stdout : x'.stdout = x.stdout
  /-- the build tool got the same arguments -/
  toolArguments : x'.toolArguments = x.toolArguments

/-- With the same options but for more requests for log lines, such worlds have
the same runs. -/
theorem AnswersLike.sameButLog_runWith (h : w'.AnswersLike w) (hout : w'.output = w.output)
    (n : Nat) (opts : Options) : SameButLog (w'.runWith (opts.louder n)) (w.runWith opts) := by
  -- what is found and printed does not depend on how many log lines were asked for
  have hlouder : w'.findings (opts.louder n) = w'.findings opts := rfl
  have hprint : w'.print (opts.louder n) = w.print opts := by
    funext found
    rw [print, print, writeHeader, writeHeader, h.palette_eq, hout]
    rfl
  have hinv : Invocation.ofOptions w'.makeVariable (opts.louder n) =
      Invocation.ofOptions w.makeVariable opts := by
    rw [h.makeVariable]
    rfl
  rw [runWith, runWith, hlouder, hinv, h.map_start, h.result_findings, hprint]
  cases (w.findings opts).result with
  | error abort => exact ⟨rfl, rfl, rfl⟩
  | ok found =>
    dsimp only
    cases w.print opts found <;> exact ⟨rfl, rfl, rfl⟩

end World

/-- What stands in front of the first line break. -/
def Text.firstLine (t : Text) : Text := t.takeWhile (· ≠ '\n')

/-- **Diagnostics change nothing.** If a world differs from another only in
diagnostics, its run ends with the same code, prints the same, and gives the
build tool the same arguments, whatever the arguments ask for, and whether or
not they are mistaken. If they are, then the report begins with the same
line. -/
theorem diagnostics_change_nothing {w w' : World} (h : w'.DiffersInDiagnostics w) :
    w'.run.code = w.run.code ∧ w'.run.stdout = w.run.stdout ∧
      w'.run.toolArguments = w.run.toolArguments ∧
      ∀ mistake, Request.read w.args = .error mistake →
        Text.firstLine w'.run.stderr = Text.firstLine w.run.stderr := by
  obtain ⟨n, hargs⟩ := h.args
  have hread : Request.read w'.args = (Request.read w.args).map (Request.louder n) := by
    rw [hargs, Request.read_verbose]
  rw [World.run, World.run, hread]
  rcases Request.read w.args with mistake | (opts | _)
  · exact ⟨rfl, rfl, rfl, fun _ _ => rfl⟩
  · obtain ⟨hcode, hstdout, htool⟩ := h.toAnswersLike.sameButLog_runWith h.output n opts
    refine ⟨hcode, hstdout, htool, fun mistake hmistake => ?_⟩
    cases hmistake
  · change _ ∧ _ ∧ _ ∧ _
    rw [Except.map, Request.louder]
    dsimp only
    rw [h.output, h.makeVariable]
    exact ⟨rfl, rfl, rfl, fun mistake hmistake => by cases hmistake⟩

/-- A world with these arguments, in which the build tool ends like this and the
environment asks for this log filter. -/
def worldOfEnd (args : List Text) (ended : ToolEnd) (filter : Option Text) : World where
  args := args
  makeVariable := none
  logVariable := filter
  noColorVariable := none
  start _ := .ok ⟨.ofBytes (Utf8.encode "MAKEFILE_LIST := a\nx:\n".toList), ended, ended⟩
  openFile _ := .ok (.ofBytes (Utf8.encode "## one\nx:\n".toList))
  output := .working

theorem differsInDiagnostics_worldOfEnd (n : Nat) (args : List Text) (ended ended' : ToolEnd)
    (filter filter' : Option Text) :
    (worldOfEnd (List.replicate n ['-', 'v'] ++ args) ended' filter').DiffersInDiagnostics
      (worldOfEnd args ended filter) :=
  ⟨⟨rfl, rfl, fun _ => rfl, rfl⟩, ⟨n, rfl⟩, rfl⟩

/-- A run that tells all, of a build tool that fails, prints what a run prints
that tells nothing; and a mistake stays the same behind requests for log
lines. -/
theorem diagnostics_change_nothing_worldOfEnd :
    (worldOfEnd [['-', 'v'], ['-', 'v'], ['-', 'C', 'd']] (.exited 2) none).run.stdout =
        (worldOfEnd [['-', 'C', 'd']] (.exited 0) (some [])).run.stdout ∧
      (worldOfEnd [['-', 'v'], ['-', 'v'], ['-', 'C', 'd']] (.exited 2) none).run.stderr ≠
        (worldOfEnd [['-', 'C', 'd']] (.exited 0) (some [])).run.stderr ∧
      Text.firstLine (worldOfEnd [['-', 'v'], ['-', 'C'], ['-', 'x']] (.exited 2) none).run.stderr =
        Text.firstLine (worldOfEnd [['-', 'C'], ['-', 'x']] (.exited 0) (some [])).run.stderr := by
  obtain ⟨-, hstdout, -, -⟩ := diagnostics_change_nothing
    (differsInDiagnostics_worldOfEnd 2 [['-', 'C', 'd']] (.exited 0) (.exited 2) (some []) none)
  obtain ⟨-, -, -, hmistake⟩ := diagnostics_change_nothing
    (differsInDiagnostics_worldOfEnd 1 [['-', 'C'], ['-', 'x']] (.exited 0) (.exited 2) (some [])
      none)
  refine ⟨hstdout, by decide +kernel, hmistake (.unexpected ['-', 'x']) ?_⟩
  decide +kernel

end TargetHelp
