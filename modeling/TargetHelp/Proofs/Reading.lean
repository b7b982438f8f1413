import TargetHelp.CommandLine

/-!
# A command line, argument by argument

The reader takes one argument after the other, and goes on with what it has
read so far (`Request.readFrom_cons`). How many log lines were asked for so far
is counted along, but never looked at: a reader that starts from a higher count
makes the same mistakes at the same arguments, and ends with the same options
but for the count (`Request.readFrom_louder`).

So requests for log lines in front of the arguments change nothing else in what
the arguments say (`Request.read_verbose`).
-/

namespace TargetHelp

/-! ## One argument -/

/-- Reads one argument, if it is not the one that ends the options. -/
def Reading.argument (r : Reading) : Text → Except ArgumentError (Option Reading)
  | '-' :: '-' :: t => r.long t
  | '-' :: c :: t => r.short (c :: t)
  | t => some <$> r.plain t

/-- Reading goes on behind an argument, unless it is a mistake or asks for
help. -/
theorem Request.readFrom_cons {a : Text} (h : a ≠ ['-', '-']) (r : Reading) (rest : List Text) :
    readFrom r (a :: rest) =
      match r.argument a with
      | .ok (some next) => readFrom next rest
      | .ok none => .ok .help
      | .error mistake => .error mistake := by
  have hargument : readFrom r (a :: rest) =
      r.argument a >>= fun next => next.elim (.ok .help) fun r => readFrom r rest := by
    rw [readFrom.eq_def]
    split
    · next heq => cases heq
    · next heq => exact absurd (List.cons.inj heq).1 h
    · next heq =>
      obtain ⟨rfl, rfl⟩ := List.cons.inj heq
      dsimp only
      split
      · exact bind_congr fun next => by cases next <;> rfl
      · next hc _ =>
        rw [Reading.argument.eq_2 _ _ _ hc]
        exact bind_congr fun next => by cases next <;> rfl
      · next hlong hshort =>
        rw [Reading.argument.eq_3 _ _ hlong hshort]
        exact bind_congr fun next => by cases next <;> rfl
  rw [hargument]
  rcases r.argument a with mistake | _ | next <;> rfl

/-! ## A higher count -/

/-- The options with so many more requests for log lines. -/
def Options.louder (n : Nat) (opts : Options) : Options :=
  { opts with verbosity := n + opts.verbosity }

/-- A reading that began with so many more requests for log lines. -/
def Reading.louder (n : Nat) (r : Reading) : Reading := { r with settled := r.settled.louder n }

/-- What was read, with so many more requests for log lines. -/
def Request.louder (n : Nat) : Request → Request
  | .run opts => .run (opts.louder n)
  | .help => .help

theorem Options.give_louder (n : Nat) (opts : Options) (o : ValueOption) (value : Text) :
    (opts.louder n).give o value = (opts.give o value).map (louder n) := by
  have hvalue : (opts.louder n).value? o = opts.value? o := by cases o <;> rfl
  have hset : (opts.louder n).set o value = (opts.set o value).louder n := by cases o <;> rfl
  rw [give, give, hvalue, hset]
  split
  · rfl
  · split <;> rfl

namespace Reading

theorem settle_louder (n : Nat) (r : Reading) :
    (r.louder n).settle = r.settle.map (Options.louder n) := by
  obtain ⟨opts, _ | ⟨o, _ | value⟩⟩ := r
  · rfl
  · rfl
  · exact opts.give_louder n o value

theorem attach_louder (n : Nat) (r : Reading) (o : ValueOption) (value : Text) :
    (r.louder n).attach o value = (r.attach o value).map (louder n) := by
  rw [attach, attach, settle_louder]
  rcases r.settle with mistake | opts
  · rfl
  · change (Options.give _ _ _).bind _ = ((Options.give _ _ _).bind _).map _
    rw [Options.give_louder]
    cases opts.give o value <;> rfl

theorem await_louder (n : Nat) (r : Reading) (o : ValueOption) :
    (r.louder n).await o = (r.await o).map (louder n) := by
  rw [await, await, settle_louder]
  cases r.settle <;> rfl

theorem flip_louder (n : Nat) (r : Reading) (s : Switch) :
    (r.louder n).flip s = (r.flip s).map (Option.map (louder n)) := by
  rw [flip, flip, settle_louder]
  rcases r.settle with mistake | opts
  · rfl
  · cases s with
    | noHeader =>
      change (if opts.noHeader then _ else _) = Except.map _ (if opts.noHeader then _ else _)
      split <;> rfl
    | verbose => rfl
    | help => rfl

theorem plain_louder (n : Nat) (r : Reading) (t : Text) :
    (r.louder n).plain t = (r.plain t).map (louder n) := by
  obtain ⟨opts, _ | ⟨o, _ | value⟩⟩ := r <;> rfl

/-- A step that always goes on if it is no mistake. -/
theorem some_map_louder {n : Nat} {x y : Except ArgumentError Reading} (h : x = y.map (louder n)) :
    some <$> x = (some <$> y).map (Option.map (louder n)) := by
  rw [h]
  cases y <;> rfl

theorem long_louder (n : Nat) (r : Reading) (t : Text) :
    (r.louder n).long t = (r.long t).map (Option.map (louder n)) := by
  unfold long
  dsimp only
  split
  · rfl
  · exact some_map_louder (attach_louder ..)
  · exact some_map_louder (await_louder ..)
  · rfl
  · exact flip_louder ..

theorem short_louder (n : Nat) (r : Reading) (t : Text) :
    (r.louder n).short t = (r.short t).map (Option.map (louder n)) := by
  induction t generalizing r with
  | nil => rfl
  | cons c rest ih =>
    rw [short.eq_def, short.eq_def]
    dsimp only
    split
    · rfl
    · split
      · exact some_map_louder (await_louder ..)
      · exact some_map_louder (attach_louder ..)
      · exact some_map_louder (attach_louder ..)
    · rw [flip_louder]
      rcases r.flip _ with mistake | _ | next
      · rfl
      · rfl
      · exact ih next

/-- An argument is read alike at a higher count. -/
theorem argument_louder (n : Nat) (r : Reading) (a : Text) :
    (r.louder n).argument a = (r.argument a).map (Option.map (louder n)) := by
  unfold argument
  split
  · exact long_louder ..
  · exact short_louder ..
  · exact some_map_louder (plain_louder ..)

end Reading

namespace Request

/-- All arguments are read alike at a higher count. -/
theorem readFrom_louder (n : Nat) (r : Reading) (args : List Text) :
    readFrom (r.louder n) args = (readFrom r args).map (louder n) := by
  have hend : ∀ r : Reading, (do return Request.run (← (r.louder n).settle)) =
      (do return Request.run (← r.settle) : Except ArgumentError Request).map (louder n) := by
    intro r
    rw [Reading.settle_louder]
    cases r.settle <;> rfl
  induction args generalizing r with
  | nil => exact hend r
  | cons a rest ih =>
    by_cases ha : a = ['-', '-']
    · subst ha
      cases rest with
      | nil => exact hend r
      | cons => rfl
    · rw [readFrom_cons ha, readFrom_cons ha, Reading.argument_louder]
      rcases r.argument a with mistake | _ | next
      · rfl
      · rfl
      · exact ih next

/-- Requests for log lines in front of the arguments are counted, and the
arguments behind them are read as ever. -/
theorem read_verbose (n : Nat) (args : List Text) :
    read (List.replicate n ['-', 'v'] ++ args) = (read args).map (louder n) := by
  induction n with
  | zero =>
    have hzero : louder 0 = id := by
      funext request
      cases request with
      | run opts => rw [louder, Options.louder, Nat.zero_add, id]
      | help => rfl
    rw [hzero, List.replicate_zero, List.nil_append]
    cases read args <;> rfl
  | succ n ih =>
    have hfirst : Reading.initial.argument ['-', 'v'] = .ok (some (Reading.initial.louder 1)) := rfl
    have hmore : ∀ request, louder 1 (louder n request) = louder (n + 1) request := by
      intro request
      cases request with
      | run opts => simp only [louder, Options.louder, ← Nat.add_assoc, Nat.add_comm 1 n]
      | help => rfl
    rw [List.replicate_succ, List.cons_append, read, readFrom_cons (by decide), hfirst]
    dsimp only
    rw [readFrom_louder, ← read, ih]
    cases read args with
    | error mistake => rfl
    | ok request => exact congrArg Except.ok (hmore request)

end Request

end TargetHelp
