import Mathlib.Data.List.Basic
import TargetHelp.Proofs.Reading

/-!
# Ways to spell options

What a command line says is a list of settings, and each setting can be spelled
in several ways: by a long name or a letter, with the value attached or in the
next argument, and letters without a value can stand in front of another letter
(`Spells`). However settings are spelled, and in whatever order, reading them
gives each option its value and counts the requests for log lines
(`Spelled.read`).

The reader has not settled its last option yet when it comes to an argument. So
what one phrase says is stated for every reading that settles to the options so
far (`Phrase.adds`), and what all of them say follows from there,
phrase by phrase (`Spells.readFrom`).
-/

namespace TargetHelp

/-! ## Settings -/

/-- One thing that a command line says. -/
inductive Setting where
  /-- an option has this value -/
  | value (o : ValueOption) (text : Text)
  /-- the header is left out -/
  | noHeader
  /-- one more request for log lines -/
  | louder
  deriving DecidableEq, Repr

namespace Setting

/-- The option that a setting is about. -/
def name : Setting → OptionName
  | .value o _ => .valued o
  | .noHeader => .switch .noHeader
  | .louder => .switch .verbose

/-- The value that settings give to an option. -/
def valueOf (settings : List Setting) (o : ValueOption) : Option Text :=
  settings.findSome? fun
    | .value o' text => if o' = o then some text else none
    | _ => none

end Setting

/-- The options that settings say: the value of every option that has one,
whether the header is left out, and how many requests for log lines there
are. -/
def Options.ofSettings (settings : List Setting) : Options where
  make := Setting.valueOf settings .make
  directory := Setting.valueOf settings .directory
  file := Setting.valueOf settings .file
  listVariable := Setting.valueOf settings .listVariable
  noHeader := settings.contains .noHeader
  verbosity := settings.count .louder

/-! ## Spelling them -/

namespace ValueOption

/-- The name of an option, behind two dashes. -/
def longName : ValueOption → Text
  | .make => "make".toList
  | .directory => "directory".toList
  | .file => "file".toList
  | .listVariable => "list-variable".toList

/-- The letter of an option, behind one dash, if it has one. -/
def letter? : ValueOption → Option Char
  | .make => none
  | .directory => some 'C'
  | .file => some 'f'
  | .listVariable => none

end ValueOption

/-- A text that can be a value in an argument of its own, since it does not look
like an option. A dash alone does not. -/
def StandsAlone (t : Text) : Prop := t = ['-'] ∨ t.head? ≠ some '-'

/-- These arguments are a way to spell these settings. Letters that ask for log
lines can stand in front of the letter of an option. -/
inductive Phrase : List Setting → List Text → Prop where
  /-- `--option=value` -/
  | longAttached (o : ValueOption) (t : Text) :
      Phrase [.value o t] ['-' :: '-' :: (o.longName ++ '=' :: t)]
  /-- `--option value` -/
  | longApart (o : ValueOption) {t : Text} (ht : StandsAlone t) :
      Phrase [.value o t] ['-' :: '-' :: o.longName, t]
  /-- `-Cvalue`, `-vCvalue` and so on -/
  | shortAttached (n : Nat) {o : ValueOption} {c : Char} {t : Text} (hc : o.letter? = some c)
      (hne : t ≠ []) (heq : t.head? ≠ some '=') :
      Phrase (List.replicate n .louder ++ [.value o t]) ['-' :: (List.replicate n 'v' ++ c :: t)]
  /-- `-C=value`, `-vC=value` and so on -/
  | shortEquals (n : Nat) {o : ValueOption} {c : Char} (t : Text) (hc : o.letter? = some c) :
      Phrase (List.replicate n .louder ++ [.value o t])
        ['-' :: (List.replicate n 'v' ++ c :: '=' :: t)]
  /-- `-C value`, `-vC value` and so on -/
  | shortApart (n : Nat) {o : ValueOption} {c : Char} {t : Text} (hc : o.letter? = some c)
      (ht : StandsAlone t) :
      Phrase (List.replicate n .louder ++ [.value o t]) ['-' :: (List.replicate n 'v' ++ [c]), t]
  /-- `--no-header` -/
  | noHeader : Phrase [.noHeader] ["--no-header".toList]
  /-- `--verbose` -/
  | verbose : Phrase [.louder] ["--verbose".toList]
  /-- `-v`, `-vv` and so on -/
  | letters (n : Nat) : Phrase (List.replicate (n + 1) .louder) ['-' :: List.replicate (n + 1) 'v']

/-- These arguments spell these settings, one phrase after the other. -/
inductive Spells : List Setting → List Text → Prop where
  /-- no arguments say nothing -/
  | nil : Spells [] []
  /-- a phrase, and what stands behind it -/
  | cons {said settings : List Setting} {phrase args : List Text} (hphrase : Phrase said phrase)
      (hargs : Spells settings args) : Spells (said ++ settings) (phrase ++ args)

/-- In these settings no option is set twice, and no path is empty. -/
structure Consistent (settings : List Setting) : Prop where
  /-- only log lines are asked for more than once -/
  once : settings.Pairwise fun s s' => s.name = s'.name → s = .louder
  /-- a path has characters -/
  nonempty : ∀ o, o.isPath = true → .value o [] ∉ settings

/-- These arguments spell these settings, which are consistent. -/
structure Spelled (settings : List Setting) (args : List Text) : Prop
    extends Consistent settings where
  /-- the settings, one phrase after the other -/
  spells : Spells settings args

/-! ## Options that grow -/

namespace Setting

theorem valueOf_append (said settings : List Setting) (o : ValueOption) :
    valueOf (said ++ settings) o = (valueOf said o).or (valueOf settings o) :=
  List.findSome?_append

theorem valueOf_replicate (n : Nat) (o : ValueOption) :
    valueOf (List.replicate n .louder) o = none := by
  rw [valueOf, List.findSome?_eq_none_iff]
  intro s hs
  rw [List.eq_of_mem_replicate hs]

/-- An option that gets its value further right has none yet. -/
theorem valueOf_eq_none {said settings : List Setting} {o : ValueOption} {t : Text}
    (h : Consistent (said ++ settings)) (hmem : .value o t ∈ settings) :
    valueOf said o = none := by
  rw [valueOf, List.findSome?_eq_none_iff]
  rintro (⟨o', t'⟩ | _ | _) hs
  · refine if_neg ?_
    rintro rfl
    cases (List.pairwise_append.mp h.once).2.2 _ hs _ hmem rfl
  · rfl
  · rfl

/-- An option has the value that a setting gives to it. -/
theorem valueOf_eq_some_iff {settings : List Setting} (h : Consistent settings) {o : ValueOption}
    {t : Text} : valueOf settings o = some t ↔ .value o t ∈ settings := by
  constructor
  · intro hvalue
    obtain ⟨⟨o', t'⟩ | _ | _, hs, hsome⟩ := List.exists_of_findSome?_eq_some hvalue
    · obtain ⟨rfl, ht⟩ := Option.ite_none_right_eq_some.mp hsome
      exact Option.some.inj ht ▸ hs
    · cases hsome
    · cases hsome
  · intro hmem
    obtain ⟨before, after, rfl⟩ := List.append_of_mem hmem
    rw [valueOf_append, valueOf_eq_none h (List.mem_cons_self ..), Option.none_or]
    simp [valueOf]

end Setting

/-- The order of settings does not matter for what they say. -/
theorem Options.ofSettings_eq_of_perm {settings settings' : List Setting}
    (hperm : settings'.Perm settings) (h : Consistent settings) (h' : Consistent settings') :
    ofSettings settings' = ofSettings settings := by
  have hvalue : ∀ o, Setting.valueOf settings' o = Setting.valueOf settings o := by
    intro o
    refine Option.ext fun t => ?_
    rw [Setting.valueOf_eq_some_iff h', Setting.valueOf_eq_some_iff h, hperm.mem_iff]
  simp only [ofSettings, hvalue, hperm.contains_eq, hperm.count_eq]

namespace Options

/-- The options with these settings besides. -/
def extend (opts : Options) (settings : List Setting) : Options where
  make := opts.make.or (Setting.valueOf settings .make)
  directory := opts.directory.or (Setting.valueOf settings .directory)
  file := opts.file.or (Setting.valueOf settings .file)
  listVariable := opts.listVariable.or (Setting.valueOf settings .listVariable)
  noHeader := opts.noHeader || settings.contains .noHeader
  verbosity := opts.verbosity + settings.count .louder

theorem initial_extend (settings : List Setting) :
    initial.extend settings = ofSettings settings := by
  simp [extend, ofSettings, initial]

theorem extend_nil (opts : Options) : opts.extend [] = opts := by
  simp [extend, Setting.valueOf]

/-- Settings can be added one part after the other. -/
theorem extend_append (opts : Options) (said settings : List Setting) :
    opts.extend (said ++ settings) = (opts.extend said).extend settings := by
  simp [extend, Setting.valueOf_append, Option.or_assoc, Bool.or_assoc, Nat.add_assoc]

theorem value_extend (opts : Options) (settings : List Setting) (o : ValueOption) :
    (opts.extend settings).value? o = (opts.value? o).or (Setting.valueOf settings o) := by
  cases o <;> rfl

theorem extend_value {opts : Options} {o : ValueOption} (h : opts.value? o = none) (t : Text) :
    opts.extend [.value o t] = opts.set o t := by
  cases o <;> simp_all [extend, Setting.valueOf, value?, set]

theorem extend_replicate (opts : Options) (n : Nat) :
    opts.extend (List.replicate n .louder) = opts.louder n := by
  simp [extend, louder, Setting.valueOf_replicate, Nat.add_comm]

/-- These settings are consistent with each other, and with the options so
far. -/
structure Admits (opts : Options) (settings : List Setting) : Prop
    extends Consistent settings where
  /-- what is to be set has no value yet -/
  unset : ∀ o t, Setting.value o t ∈ settings → opts.value? o = none
  /-- a header to be left out is not left out yet -/
  header : .noHeader ∈ settings → opts.noHeader = false

namespace Admits

variable {opts : Options} {said settings : List Setting}

/-- If settings are consistent with the options so far, so are the first of
them. -/
theorem left (h : opts.Admits (said ++ settings)) : opts.Admits said :=
  ⟨⟨(List.pairwise_append.mp h.once).1,
    fun o hpath hmem => h.nonempty o hpath (List.mem_append_left _ hmem)⟩,
    fun o t hmem => h.unset o t (List.mem_append_left _ hmem),
    fun hmem => h.header (List.mem_append_left _ hmem)⟩

/-- The others are consistent with the options that the first of them add to. -/
theorem right (h : opts.Admits (said ++ settings)) : (opts.extend said).Admits settings := by
  obtain ⟨-, honce, hacross⟩ := List.pairwise_append.mp h.once
  refine ⟨⟨honce, fun o hpath hmem => h.nonempty o hpath (List.mem_append_right _ hmem)⟩, ?_, ?_⟩
  · intro o t hmem
    rw [value_extend, h.unset o t (List.mem_append_right _ hmem),
      Setting.valueOf_eq_none h.toConsistent hmem]
    rfl
  · intro hmem
    have hnot : Setting.noHeader ∉ said := fun hs => by cases hacross _ hs _ hmem rfl
    simpa [extend, hnot] using h.header (List.mem_append_right _ hmem)

/-- An option is given its value. -/
theorem give {o : ValueOption} {t : Text} (h : opts.Admits [.value o t]) :
    opts.give o t = .ok (opts.set o t) := by
  have hmem : Setting.value o t ∈ [Setting.value o t] := List.mem_singleton_self _
  rw [Options.give, h.unset o t hmem, if_neg (by simp), if_neg]
  rintro ⟨hpath, rfl⟩
  exact h.nonempty o hpath hmem

end Admits

end Options

/-! ## Reading them -/

theorem ValueOption.ne_dash_of_letter {o : ValueOption} {c : Char} (h : o.letter? = some c) :
    c ≠ '-' := by
  cases o <;> cases h <;> decide

theorem OptionName.ofShort_letter {o : ValueOption} {c : Char} (h : o.letter? = some c) :
    ofShort? c = some (.valued o) := by
  cases o <;> cases h <;> decide

namespace Reading

variable {r : Reading} {opts : Options}

/-- Two dashes and the name of an option wait for its value. -/
theorem long_name (r : Reading) (o : ValueOption) : r.long o.longName = some <$> r.await o := by
  cases o <;> rfl

/-- Two dashes, the name of an option, an equals sign and a value set it. -/
theorem long_equals (r : Reading) (o : ValueOption) (t : Text) :
    r.long (o.longName ++ '=' :: t) = some <$> r.attach o t := by
  cases o <;> rfl

/-- A letter at the end waits for the value of its option. -/
theorem short_letter (r : Reading) {o : ValueOption} {c : Char} (hc : o.letter? = some c) :
    r.short [c] = some <$> r.await o := by
  rw [short, OptionName.ofShort_letter hc]

/-- A letter, an equals sign and a value set an option. -/
theorem short_equals (r : Reading) {o : ValueOption} {c : Char} (hc : o.letter? = some c)
    (t : Text) : r.short (c :: '=' :: t) = some <$> r.attach o t := by
  rw [short, OptionName.ofShort_letter hc]
  rfl

/-- A letter and a value set an option. -/
theorem short_attached (r : Reading) {o : ValueOption} {c : Char} {t : Text}
    (hc : o.letter? = some c) (hne : t ≠ []) (ht : t.head? ≠ some '=') :
    r.short (c :: t) = some <$> r.attach o t := by
  rw [short, OptionName.ofShort_letter hc]
  dsimp only
  split
  · exact absurd rfl hne
  · exact absurd rfl ht
  · rfl

/-- A text that can stand alone is no option. -/
theorem argument_of_standsAlone {t : Text} (h : StandsAlone t) (r : Reading) :
    r.argument t = some <$> r.plain t := by
  rw [argument.eq_def]
  split
  · rcases h with h | h
    · cases h
    · exact absurd rfl h
  · rcases h with h | h
    · cases h
    · exact absurd rfl h
  · rfl

/-- A request for log lines is counted. -/
theorem flip_verbose (hr : r.settle = .ok opts) :
    r.flip .verbose = .ok (some ⟨opts.louder 1, none⟩) := by
  rw [flip, hr, Options.louder, Nat.add_comm]
  rfl

/-- The letters that ask for log lines are counted. -/
theorem short_replicate (hr : r.settle = .ok opts) (n : Nat) (t : Text) :
    ∃ r' : Reading, r'.settle = .ok (opts.louder n) ∧
      r.short (List.replicate n 'v' ++ t) = r'.short t := by
  induction n generalizing r opts with
  | zero => exact ⟨r, by rw [hr, Options.louder, Nat.zero_add], rfl⟩
  | succ n ih =>
    have hfirst : r.short (List.replicate (n + 1) 'v' ++ t) =
        (⟨opts.louder 1, none⟩ : Reading).short (List.replicate n 'v' ++ t) := by
      change (r.flip .verbose >>= _) = _
      rw [flip_verbose hr]
      rfl
    obtain ⟨r', hr', hrest⟩ := ih (r := ⟨opts.louder 1, none⟩) rfl
    refine ⟨r', ?_, hfirst.trans hrest⟩
    rw [hr', Options.louder, Options.louder, Options.louder, ← Nat.add_assoc]

/-- Behind one dash, letters that ask for log lines can stand in front of
others. -/
theorem argument_replicate (hr : r.settle = .ok opts) (n : Nat) {t : Text}
    (hne : List.replicate n 'v' ++ t ≠ []) (ht : t.head? ≠ some '-') :
    '-' :: (List.replicate n 'v' ++ t) ≠ ['-', '-'] ∧
    ∃ r' : Reading, r'.settle = .ok (opts.louder n) ∧
      r.argument ('-' :: (List.replicate n 'v' ++ t)) = r'.short t := by
  have hdash : (List.replicate n 'v' ++ t).head? ≠ some '-' := by
    cases n with
    | zero => exact ht
    | succ n => simp [List.replicate_succ]
  obtain ⟨r', hr', hshort⟩ := short_replicate hr n t
  obtain ⟨c, rest, hletters⟩ := List.exists_cons_of_ne_nil hne
  rw [hletters] at hdash hshort ⊢
  have hc : c ≠ '-' := fun hc => hdash (congrArg some hc)
  refine ⟨fun h => hc (List.cons.inj (List.cons.inj h).2).1, r', hr', ?_⟩
  rw [← hshort]
  exact argument.eq_2 r c rest hc

/-- So they can in front of the letter of an option. -/
theorem argument_letter (hr : r.settle = .ok opts) (n : Nat) {o : ValueOption} {c : Char}
    (hc : o.letter? = some c) (t : Text) :
    '-' :: (List.replicate n 'v' ++ c :: t) ≠ ['-', '-'] ∧
    ∃ r' : Reading, r'.settle = .ok (opts.louder n) ∧
      r.argument ('-' :: (List.replicate n 'v' ++ c :: t)) = r'.short (c :: t) :=
  argument_replicate hr n (by simp) fun h => ValueOption.ne_dash_of_letter hc (Option.some.inj h)

end Reading

namespace Request

variable {r : Reading} {opts : Options} {a : Text}

/-- What a phrase adds to the options so far: behind it, the reader goes on with
some reading that settles to all of them. -/
def Adds (r : Reading) (phrase : List Text) (opts : Options) : Prop :=
  ∃ next : Reading, next.settle = .ok opts ∧
    ∀ rest, readFrom r (phrase ++ rest) = readFrom next rest

/-- An argument that the reader goes on behind. -/
theorem adds_of_argument {next : Reading} (ha : a ≠ ['-', '-'])
    (harg : r.argument a = .ok (some next)) (hnext : next.settle = .ok opts) :
    Adds r [a] opts := by
  refine ⟨next, hnext, fun rest => ?_⟩
  rw [List.singleton_append, readFrom_cons ha, harg]

/-- An argument that sets an option. -/
theorem adds_of_attach {r' : Reading} {o : ValueOption} {t : Text} (ha : a ≠ ['-', '-'])
    (harg : r.argument a = some <$> r'.attach o t) (hr' : r'.settle = .ok opts)
    (h : opts.Admits [.value o t]) : Adds r [a] (opts.extend [.value o t]) := by
  have hattach : r'.attach o t = .ok ⟨opts.set o t, none⟩ := by
    rw [Reading.attach, hr']
    change (opts.give o t >>= _) = _
    rw [h.give]
    rfl
  rw [Options.extend_value (h.unset o t (List.mem_singleton_self _))]
  rw [hattach] at harg
  exact adds_of_argument ha harg rfl

/-- An argument that waits for the value of an option, and the value. -/
theorem adds_of_await {r' : Reading} {o : ValueOption} {t : Text} (ha : a ≠ ['-', '-'])
    (harg : r.argument a = some <$> r'.await o) (ht : StandsAlone t)
    (hr' : r'.settle = .ok opts) (h : opts.Admits [.value o t]) :
    Adds r [a, t] (opts.extend [.value o t]) := by
  have hawait : r'.await o = .ok ⟨opts, some (o, none)⟩ := by
    rw [Reading.await, hr']
    rfl
  have hdashes : t ≠ ['-', '-'] := by
    rintro rfl
    rcases ht with ht | ht
    · cases ht
    · exact ht rfl
  refine ⟨⟨opts, some (o, some t)⟩, ?_, fun rest => ?_⟩
  · rw [Options.extend_value (h.unset o t (List.mem_singleton_self _))]
    exact h.give
  · rw [List.cons_append, readFrom_cons ha, harg, hawait]
    change readFrom _ (t :: rest) = _
    rw [readFrom_cons hdashes, Reading.argument_of_standsAlone ht]
    rfl

end Request

/-- A phrase adds its settings to the options so far. -/
theorem Phrase.adds {said : List Setting} {phrase : List Text} (h : Phrase said phrase)
    {r : Reading} {opts : Options} (hr : r.settle = .ok opts) (hadmits : opts.Admits said) :
    Request.Adds r phrase (opts.extend said) := by
  cases h with
  | longAttached o t =>
    exact Request.adds_of_attach (by simp) (Reading.long_equals r o t) hr hadmits
  | longApart o ht =>
    exact Request.adds_of_await (by cases o <;> decide) (Reading.long_name r o) ht hr hadmits
  | shortAttached n hc hne heq =>
    obtain ⟨ha, r', hr', harg⟩ := Reading.argument_letter hr n hc _
    rw [Options.extend_append, Options.extend_replicate]
    exact Request.adds_of_attach ha (harg.trans (r'.short_attached hc hne heq)) hr'
      (Options.extend_replicate .. ▸ hadmits.right)
  | shortEquals n t hc =>
    obtain ⟨ha, r', hr', harg⟩ := Reading.argument_letter hr n hc _
    rw [Options.extend_append, Options.extend_replicate]
    exact Request.adds_of_attach ha (harg.trans (r'.short_equals hc t)) hr'
      (Options.extend_replicate .. ▸ hadmits.right)
  | shortApart n hc ht =>
    obtain ⟨ha, r', hr', harg⟩ := Reading.argument_letter hr n hc _
    rw [Options.extend_append, Options.extend_replicate]
    exact Request.adds_of_await ha (harg.trans (r'.short_letter hc)) ht hr'
      (Options.extend_replicate .. ▸ hadmits.right)
  | noHeader =>
    have harg : r.argument "--no-header".toList =
        .ok (some ⟨{ opts with noHeader := true }, none⟩) := by
      change r.flip .noHeader = _
      rw [Reading.flip, hr]
      change (if opts.noHeader then _ else _) = _
      rw [if_neg (by simp [hadmits.header])]
      rfl
    refine Request.adds_of_argument (by decide) harg ?_
    simp [Options.extend, Setting.valueOf, Reading.settle]
  | verbose =>
    exact Request.adds_of_argument (by decide) (Reading.flip_verbose hr)
      (congrArg Except.ok (Options.extend_replicate opts 1).symm)
  | letters n =>
    obtain ⟨ha, r', hr', harg⟩ :=
      Reading.argument_replicate hr (n + 1) (t := []) (by simp [List.replicate_succ]) (by simp)
    rw [List.append_nil] at ha harg
    rw [Options.extend_replicate]
    exact Request.adds_of_argument ha harg hr'

/-- Phrases add all their settings to the options so far, and then the options
are read. -/
theorem Spells.readFrom {settings : List Setting} {args : List Text} (h : Spells settings args)
    {r : Reading} {opts : Options} (hr : r.settle = .ok opts) (hadmits : opts.Admits settings) :
    Request.readFrom r args = .ok (.run (opts.extend settings)) := by
  induction h generalizing r opts with
  | nil =>
    rw [Request.readFrom, hr, Options.extend_nil]
    rfl
  | cons hphrase _ ih =>
    obtain ⟨next, hnext, hrest⟩ := hphrase.adds hr hadmits.left
    rw [hrest, ih hnext hadmits.right, Options.extend_append]

/-- Settings are read as what they say, however they are spelled. -/
theorem Spelled.read {settings : List Setting} {args : List Text} (h : Spelled settings args) :
    Request.read args = .ok (.run (.ofSettings settings)) := by
  have hadmits : Options.initial.Admits settings :=
    ⟨h.toConsistent, fun o _ _ => by cases o <;> rfl, fun _ => rfl⟩
  rw [Request.read, h.spells.readFrom rfl hadmits, Options.initial_extend]

end TargetHelp
