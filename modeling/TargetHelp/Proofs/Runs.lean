import TargetHelp.Program
import TargetHelp.Proofs.Writing

/-!
# A run, piece by piece

A run is put together from pieces that tell what happens and may give up. As
long as no piece gives up, what the run comes to does not depend on what was
told (`Traced.result_bind`). Here is what each piece comes to when the outside
answers it, from the database up to what is printed (`World.run_of_findings`),
and what the run comes to when the build tool does not start, or when what it
prints does not arrive.

A run sees of the outside only these answers. Where they are the same, so is
what the run finds (`World.AnswersLike.result_findings`).
-/

namespace TargetHelp

/-! ## Pieces -/

namespace Traced

variable {α β : Type}

/-- A piece that ends well is followed by the next. -/
theorem bind_of_ok {x : Traced α} {a : α} (h : x.result = .ok a) (f : α → Traced β) :
    x >>= f = ⟨x.events ++ (f a).events, (f a).result⟩ := by
  change Traced.bind x f = _
  rw [Traced.bind, h]

/-- A piece that gives up ends the run. -/
theorem bind_of_error {x : Traced α} {abort : Abort} (h : x.result = .error abort)
    (f : α → Traced β) : x >>= f = ⟨x.events, .error abort⟩ := by
  change Traced.bind x f = _
  rw [Traced.bind, h]

theorem pure_eq (a : α) : (Pure.pure a : Traced α) = ⟨[], .ok a⟩ := rfl

/-- A piece that ends well hands its result to the next. -/
theorem result_bind {x : Traced α} {a : α} (h : x.result = .ok a) (f : α → Traced β) :
    (x >>= f).result = (f a).result := by
  rw [bind_of_ok h]

/-- What has happened in a piece has happened when the next follows. -/
theorem events_prefix_bind (x : Traced α) (f : α → Traced β) :
    x.events <+: (x >>= f).events := by
  cases hresult : x.result with
  | ok a => simp only [bind_of_ok hresult, List.prefix_append]
  | error abort => simp only [bind_of_error hresult, List.prefix_refl]

/-- Pieces that come to the same, followed by pieces that come to the same, come
to the same. -/
theorem result_bind_congr {x x' : Traced α} {f f' : α → Traced β} (hx : x'.result = x.result)
    (hf : ∀ a, (f' a).result = (f a).result) : (x' >>= f').result = (x >>= f).result := by
  cases hresult : x.result with
  | ok a => rw [result_bind (hx.trans hresult), result_bind hresult, hf]
  | error abort => rw [bind_of_error (hx.trans hresult), bind_of_error hresult]

end Traced

/-- A database is read from a stream that does not break, and from no other. -/
theorem Database.read_eq (what : Text) (s : Stream) :
    Database.read what s =
      match s.fault with
      | none => .ok (ofLines s.lines)
      | some fault => .error (.read what fault) := by
  rw [Database.read, Stream.readLines]
  cases s.fault <;> rfl

/-- The database that a build tool printed, as far as that arrived. -/
def ToolRun.database (tool : ToolRun) : Database := Database.ofLines tool.output.lines

namespace World

variable {w : World}

/-- A build tool whose output arrives has a database, and comes to its end. -/
theorem readDatabase_of_arrives {inv : Invocation} {tool : ToolRun} (h : w.start inv = .ok tool)
    (harrives : tool.output.fault = none) :
    w.readDatabase inv = ⟨.introspecting inv.display ::
        (Database.openQuotes tool.output.lines).map .openQuote ++ tool.ended.events ++
          [.databaseRead tool.database.targets.size],
      .ok tool.database⟩ := by
  rw [readDatabase, h]
  dsimp only
  rw [Database.read_eq, harrives]
  simp [Traced.bind_of_ok, Traced.tell, Traced.pure_eq, ToolRun.database]

/-- That does not depend on how it ends. -/
theorem result_readDatabase {inv : Invocation} {tool : ToolRun} (h : w.start inv = .ok tool)
    (harrives : tool.output.fault = none) :
    (w.readDatabase inv).result = .ok tool.database := by
  rw [readDatabase_of_arrives h harrives]

/-- A build tool whose output breaks off is killed, and is all that a run has to
report. -/
theorem readDatabase_of_broken {inv : Invocation} {tool : ToolRun} {fault : Fault}
    (h : w.start inv = .ok tool) (hbroken : tool.output.fault = some fault) :
    w.readDatabase inv = ⟨.introspecting inv.display ::
        (Database.openQuotes tool.output.lines).map .openQuote ++ tool.killed.events,
      .error ⟨"failed to read the make database".toList,
        (Failure.read inv.outputName fault).chain⟩⟩ := by
  rw [readDatabase, h]
  dsimp only
  rw [Database.read_eq, hbroken]
  simp [Traced.bind_of_ok, Traced.tell, Traced.giveUp]

/-- A build tool that does not start is all that a run has to report. -/
theorem readDatabase_of_error {inv : Invocation} {fault : Fault} (h : w.start inv = .error fault) :
    w.readDatabase inv = ⟨[.introspecting inv.display],
      .error ⟨"failed to read the make database".toList,
        (Failure.launch inv.display fault).chain⟩⟩ := by
  rw [readDatabase, h]
  rfl

/-- A makefile that can be read gives its entries. -/
theorem result_scanMakefile (db : Database) {path : Text} {data : Bytes}
    (h : w.openFile path = .ok (.ofBytes data)) :
    (w.scanMakefile db path).result = .ok (Entry.ofLines db (Stream.ofBytes data).lines) := by
  have hfound : ((w.openFile path).mapError (Failure.openFile path) >>= Entry.read db path) =
      .ok (Entry.ofLines db (Stream.ofBytes data).lines) := by
    rw [h]
    rfl
  rw [scanMakefile, hfound]
  rfl

/-- Makefiles are scanned one after the other, and their entries come in that
order. -/
theorem result_scanMakefiles (db : Database) {files : List Text} {path : Text → Text}
    {found : Text → List Entry}
    (h : ∀ file ∈ files, (w.scanMakefile db (path file)).result = .ok (found file)) :
    (w.scanMakefiles db (files.map path)).result = .ok (files.flatMap found) := by
  induction files with
  | nil => rfl
  | cons file files ih =>
    have hfile := h file (List.mem_cons_self ..)
    have hfiles := ih fun f hf => h f (List.mem_cons_of_mem _ hf)
    rw [List.map_cons, scanMakefiles, Traced.result_bind hfile, Traced.result_bind hfiles]
    rfl

/-- Of all entries found, the last one of every name is collected. A list that
is not defined lists nothing. -/
theorem result_collect (db : Database) (opts : Options) {found : Text → List Entry}
    (h : ∀ file ∈ db.vars.values opts.listName,
      (w.scanMakefile db (makefilePath opts.directory file)).result = .ok (found file)) :
    (w.collect db opts).result =
      .ok (Entry.latest ((db.vars.values opts.listName).flatMap found)) := by
  rw [Variables.values] at h ⊢
  rw [collect, Database.makefilePaths?]
  cases hlist : db.vars.get? opts.listName with
  | none => rfl
  | some files =>
    rw [hlist] at h
    exact Traced.result_bind (result_scanMakefiles db h) _

/-- What is collected is a matter of the files. -/
theorem collect_congr {w' : World} (h : w'.openFile = w.openFile) (db : Database)
    (opts : Options) : w'.collect db opts = w.collect db opts := by
  have hscan : ∀ path, w'.scanMakefile db path = w.scanMakefile db path := by
    intro path
    rw [scanMakefile, scanMakefile, h]
  have hscans : ∀ paths, w'.scanMakefiles db paths = w.scanMakefiles db paths := by
    intro paths
    induction paths with
    | nil => rfl
    | cons path paths ih => rw [scanMakefiles, scanMakefiles, hscan, ih]
  rw [collect, collect]
  cases db.makefilePaths? opts with
  | none => rfl
  | some paths =>
    dsimp only
    rw [hscans]

/-- What is collected is what a run finds. -/
theorem result_findings {opts : Options} {db : Database} {entries : List Entry}
    (hdb : (w.readDatabase (.ofOptions w.makeVariable opts)).result = .ok db)
    (hentries : (w.collect db opts).result = .ok entries) :
    (w.findings opts).result = .ok ⟨db.vars, Entry.sections entries⟩ := by
  rw [findings, Traced.result_bind hdb, Traced.result_bind hentries]
  rfl

/-- A run that is given up fails, prints nothing, and reports why. -/
theorem runWith_of_abort {opts : Options} {abort : Abort}
    (h : (w.findings opts).result = .error abort) :
    w.runWith opts = ⟨1, [], w.log opts (w.findings opts).events ++ abort.report,
      (w.start (.ofOptions w.makeVariable opts)).toOption.map fun _ =>
        (Invocation.ofOptions w.makeVariable opts).arguments⟩ := by
  rw [runWith]
  rw [h]

/-! ## What is printed -/

/-- The same world with another place for the listing to go. -/
def withOutput (w : World) (sink : Sink) : World := { w with output := sink }

theorem writes_writeHeader (w : World) (opts : Options) :
    Writes (fun sink => (w.withOutput sink).writeHeader opts)
      (if opts.noHeader then [] else Listing.header) := by
  cases hheader : opts.noHeader with
  | true =>
    simp only [writeHeader, hheader, if_true]
    exact .nil
  | false =>
    simp only [writeHeader, hheader, Bool.false_eq_true, if_false]
    exact .write _

/-- What a run finds is delivered below the header. -/
theorem delivers_print (w : World) (opts : Options) (found : Findings) :
    Delivers (fun sink => (w.withOutput sink).print opts found)
      ((if opts.noHeader then [] else Listing.header) ++
        Listing.render w.palette found.vars found.sections) :=
  (w.writes_writeHeader opts).append_delivers
    (Listing.delivers_write w.palette found.vars found.sections)

/-- An output that works takes all of it. -/
theorem print_of_working (hout : w.output = .working) (opts : Options) (found : Findings) :
    w.print opts found = .ok ((if opts.noHeader then [] else Listing.header) ++
      Listing.render w.palette found.vars found.sections) := by
  have hworld : w.withOutput .working = w := by
    rw [withOutput, ← hout]
  have hprint := (w.delivers_print opts found).working
  rwa [hworld] at hprint

/-- Then the run succeeds. -/
theorem run_of_findings {opts : Options} {found : Findings}
    (hargs : Request.read w.args = .ok (.run opts))
    (hfound : (w.findings opts).result = .ok found) (hout : w.output = .working) :
    w.run.code = 0 ∧ w.run.stdout = (if opts.noHeader then [] else Listing.header) ++
      Listing.render w.palette found.vars found.sections := by
  rw [run, hargs]
  simp only [runWith, hfound, print_of_working hout]
  exact ⟨trivial, trivial⟩

/-! ## Worlds that answer alike -/

/-- One world answers like another: the environment asks for the same build tool
and the same colours, the tool prints the same, and the files are the same. The
tool may end in another way. -/
structure AnswersLike (w' w : World) : Prop where
  /-- the environment asks for the same build tool -/
  makeVariable : w'.makeVariable = w.makeVariable
  /-- the environment asks for the same colours -/
  noColorVariable : w'.noColorVariable = w.noColorVariable
  /-- the build tool prints the same, or does not start for the same reason -/
  start : ∀ inv, (w'.start inv).map ToolRun.output = (w.start inv).map ToolRun.output
  /-- the files are the same -/
  openFile : w'.openFile = w.openFile

namespace AnswersLike

variable {w' : World}

/-- The build tool starts in both worlds, and prints the same, or in neither. -/
theorem start_cases (h : w'.AnswersLike w) (inv : Invocation) :
    (∃ fault, w'.start inv = .error fault ∧ w.start inv = .error fault) ∨
      ∃ tool' tool, w'.start inv = .ok tool' ∧ w.start inv = .ok tool ∧
        tool'.output = tool.output := by
  have hstart := h.start inv
  cases hw' : w'.start inv with
  | error fault' =>
    cases hw : w.start inv with
    | error fault =>
      rw [hw', hw] at hstart
      cases hstart
      exact .inl ⟨_, rfl, rfl⟩
    | ok tool =>
      rw [hw', hw] at hstart
      cases hstart
  | ok tool' =>
    cases hw : w.start inv with
    | error fault =>
      rw [hw', hw] at hstart
      cases hstart
    | ok tool =>
      rw [hw', hw] at hstart
      exact .inr ⟨tool', tool, rfl, rfl, Except.ok.inj hstart⟩

/-- Such worlds have the same database. -/
theorem result_readDatabase (h : w'.AnswersLike w) (inv : Invocation) :
    (w'.readDatabase inv).result = (w.readDatabase inv).result := by
  rcases h.start_cases inv with ⟨fault, hw', hw⟩ | ⟨tool', tool, hw', hw, houtput⟩
  · rw [readDatabase_of_error hw', readDatabase_of_error hw]
  · cases hfault : tool.output.fault with
    | none =>
      have hfault' : tool'.output.fault = none := houtput ▸ hfault
      rw [World.result_readDatabase hw' hfault', World.result_readDatabase hw hfault,
        ToolRun.database, ToolRun.database, houtput]
    | some fault =>
      have hfault' : tool'.output.fault = some fault := houtput ▸ hfault
      rw [readDatabase_of_broken hw' hfault', readDatabase_of_broken hw hfault]

/-- In such worlds the same is found. -/
theorem result_findings (h : w'.AnswersLike w) (opts : Options) :
    (w'.findings opts).result = (w.findings opts).result := by
  rw [findings, findings, h.makeVariable]
  refine Traced.result_bind_congr (h.result_readDatabase _) fun db => ?_
  rw [collect_congr h.openFile]

theorem palette_eq (h : w'.AnswersLike w) : w'.palette = w.palette := by
  rw [palette, palette, isColored, isColored, h.noColorVariable]

end AnswersLike

end World

end TargetHelp
