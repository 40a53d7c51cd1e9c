import RouteStubs.Proofs.Run.Turns

/-!
# Sessions and their turns

A session adds to the turns of a run what is printed, noted and counted. `exists_processPaths` says
that the turns decide where the processing of the inputs ends, with which file system and with which
totals; the rest of the module carries this over to whole runs.
-/

namespace RouteStubs

/-! ## Totals -/

/-- The totals `s` after a turn with the given result. With `json` no test files are counted. -/
def Summary.record (json : Bool) (s : Summary) : Except Failure Outcome → Summary
  | .ok outcome =>
    let s := s.recordScanned outcome.found.handlers.length
    if json || outcome.output?.isNone then s else s.addWritten 1
  | .error (.tooLarge _ _ _) => s.addSkipped 1
  | .error failure => if failure.isFatal then s else (s.recordScanned 0).addSkipped 1

/-- The totals `s` after the turns `ts`, which are recorded one after the other. -/
def Summary.recordAll (json : Bool) (s : Summary) (ts : List Turn) : Summary :=
  ts.foldl (fun s t => s.record json t.result) s

/-- The result is a failure that is not fatal: the file is skipped, and the run goes on. -/
def isSkip : Except Failure Outcome → Bool
  | .ok _ => false
  | .error failure => !failure.isFatal

/-- The number `skipped` goes up by one with every result that `isSkip`, and stays otherwise. -/
lemma Summary.skipped_record (json : Bool) (s : Summary) (result : Except Failure Outcome) :
    (s.record json result).skipped = s.skipped + if isSkip result then 1 else 0 := by
  cases result with
  | ok outcome =>
    simp only [record]
    split <;> rfl
  | error failure => cases failure <;> rfl

lemma Summary.skipped_recordAll (json : Bool) (s : Summary) (ts : List Turn) :
    (s.recordAll json ts).skipped = s.skipped + ts.countP fun t => isSkip t.result := by
  induction ts generalizing s with
  | nil => rfl
  | cons t ts ih =>
    change ((s.record json t.result).recordAll json ts).skipped = _
    rw [ih, skipped_record, List.countP_cons]
    omega

namespace Session

/-- Something is printed when `recordOutcome` takes up the `outcome`. -/
def Display.prints (display : Display) (outcome : Outcome) : Bool :=
  display.json || (display.report && outcome.output?.isSome)

/-- The run ends after the result: by a fatal failure, or because it cannot be printed. -/
def ends (env : Environment) (display : Display) : Except Failure Outcome → Bool
  | .ok outcome => !env.outputWorks && display.prints outcome
  | .error failure => failure.isFatal

/-- Where standard output works, `ends` is `isFatal`: only fatal failures end a run. -/
lemma ends_eq_isFatal {env : Environment} (h : env.outputWorks = true) (display : Display) :
    ends env display = isFatal := by
  funext result
  cases result <;> simp [ends, isFatal, h]

/-- The session `s`, in which the run goes on or, if `ended`, in which it ends. -/
def goesOn (ended : Bool) (s : Session) : Except Session Session :=
  if ended then .error s else .ok s

/-- What `recordOutcome` does is to count the `outcome`, and then perhaps to print a text `t`. -/
lemma exists_recordOutcome_eq (env : Environment) (display : Display) (path : Text)
    (outcome : Outcome) (s : Session) :
    ∃ t, recordOutcome env display path outcome s =
      let counted := { s with summary := s.summary.record display.json (.ok outcome) }
      if display.prints outcome then counted.print env t else .ok counted := by
  obtain ⟨json, report, coloured⟩ := display
  cases json with
  | true => exact ⟨_, rfl⟩
  | false =>
    cases outcome with
    | noHandlers found => exact ⟨[], by cases report <;> rfl⟩
    | written output found => exact ⟨_, by cases report <;> rfl⟩
    | planned output found => exact ⟨_, by cases report <;> rfl⟩

/-- What `print` does leaves the totals and the file system alone. -/
lemma exists_print_eq (env : Environment) (s : Session) (t : Text) :
    ∃ s', s.print env t = goesOn (!env.outputWorks) s' ∧ s'.fs = s.fs ∧ s'.summary = s.summary := by
  unfold print goesOn
  cases env.outputWorks with
  | false => exact ⟨_, rfl, rfl, rfl⟩
  | true => exact ⟨_, rfl, rfl, rfl⟩

/-- What `recordOutcome` does leaves the file system alone and counts the outcome by
`Summary.record`. -/
lemma exists_recordOutcome (env : Environment) (display : Display) (path : Text)
    (outcome : Outcome) (s : Session) :
    ∃ s', recordOutcome env display path outcome s =
        goesOn (ends env display (.ok outcome)) s' ∧
      s'.fs = s.fs ∧ s'.summary = s.summary.record display.json (.ok outcome) := by
  obtain ⟨t, ht⟩ := exists_recordOutcome_eq env display path outcome s
  by_cases hprints : display.prints outcome = true
  · simp only [hprints, if_true] at ht
    simp only [ht, ends, hprints, Bool.and_true]
    exact exists_print_eq env _ t
  · simp only [hprints] at ht
    simp only [ht, ends, hprints, Bool.and_false]
    exact ⟨_, rfl, rfl, rfl⟩

/-- The turn of an input decides how `processPath` goes on, and the totals and the file system after
it. -/
lemma exists_processPath (env : Environment) (display : Display) (config : Config) (path : Text)
    (s : Session) :
    ∃ s', processPath env display config path s =
        goesOn (ends env display (Turn.take config s.fs path).1.result) s' ∧
      s'.fs = (Turn.take config s.fs path).2 ∧
      s'.summary = s.summary.record display.json (Turn.take config s.fs path).1.result := by
  unfold processPath Turn.take
  obtain ⟨events, outcome, fs⟩ := Generator.processFile s.fs config path
  cases outcome with
  | ok outcome => exact exists_recordOutcome env display path outcome _
  | error failure =>
    cases failure with
    | tooLarge path size limit => exact ⟨_, rfl, rfl, rfl⟩
    | creation path cause => exact ⟨_, rfl, rfl, rfl⟩
    | read path cause => exact ⟨_, rfl, rfl, rfl⟩
    | parse path fault => exact ⟨_, rfl, rfl, rfl⟩
    | render path cause => exact ⟨_, rfl, rfl, rfl⟩
    | template fault => exact ⟨_, rfl, rfl, rfl⟩
    | input problem => exact ⟨_, rfl, rfl, rfl⟩

/-- The `turns` of the inputs decide how `processPaths` ends, and the totals and the file system
after it. The induction is on the inputs, with the session moving from turn to turn. -/
lemma exists_processPaths (env : Environment) (display : Display) (config : Config)
    (paths : List Text) (s : Session) :
    ∃ s', processPaths env display config paths s =
        goesOn ((turns (ends env display) config paths s.fs).1.any fun t =>
          ends env display t.result) s' ∧
      s'.fs = (turns (ends env display) config paths s.fs).2 ∧
      s'.summary =
        s.summary.recordAll display.json (turns (ends env display) config paths s.fs).1 := by
  induction paths generalizing s with
  | nil => exact ⟨s, rfl, rfl, rfl⟩
  | cons path paths ih =>
    obtain ⟨s₁, hs₁, hfs, hsummary⟩ := exists_processPath env display config path s
    cases hends : ends env display (Turn.take config s.fs path).1.result with
    | true =>
      refine ⟨s₁, ?_, ?_, ?_⟩
      · rw [turns_cons_of_ends hends, List.any_cons, hends, Bool.true_or, processPaths, hs₁, hends]
        rfl
      · rw [turns_cons_of_ends hends, hfs]
      · rw [turns_cons_of_ends hends, hsummary]
        rfl
    | false =>
      obtain ⟨s₂, hs₂, hfs₂, hsummary₂⟩ := ih s₁
      rw [hfs] at hs₂ hfs₂ hsummary₂
      refine ⟨s₂, ?_, ?_, ?_⟩
      · rw [turns_cons_of_not_ends hends, List.any_cons, hends, Bool.false_or, processPaths, hs₁,
          hends]
        exact hs₂
      · rw [turns_cons_of_not_ends hends, hfs₂]
      · rw [turns_cons_of_not_ends hends, hsummary₂, hsummary]
        rfl

end Session

/-! ## Runs -/

/-- Arguments that lead to files stand for themselves in `collect`. -/
lemma Inputs.collect_of_isFile {fs : FileSystem} {paths : List Text}
    (h : ∀ p ∈ paths, fs.isFile p = true) : (collect fs paths []).result = .ok paths := by
  have hgather (ws : List Wildcard) : (gather (ofArgument fs ws) paths).result = .ok paths := by
    induction paths with
    | nil => rfl
    | cons p paths ih =>
      have hfile : ofArgument fs ws p = pure [p] := by
        have hp := h p List.mem_cons_self
        unfold FileSystem.isFile at hp
        split at hp
        · next place content hstatus =>
          simp [ofArgument, FileSystem.isDirectory, FileSystem.present, hstatus, Except.toBool]
        · simp at hp
      have hpaths := ih fun q hq => h q (List.mem_cons_of_mem _ hq)
      simp [gather, hfile, hpaths, Except.bind]
  exact hgather []

/-- How test files are generated with these options and the size limit `limit`. -/
def Options.config (options : Options) (limit : Nat) : Config :=
  ⟨options.outDir, options.accessor, options.dryRun || options.json, limit⟩

/-- What is shown with these options in the environment `env`. -/
def Options.display (options : Options) (env : Environment) : Session.Display :=
  ⟨options.json, !options.quiet && !options.json, env.coloursReports options.colour⟩

namespace Session

/-- The session in which the inputs have been collected by `Inputs.collect`. -/
def collected (options : Options) (fs : FileSystem) : Session :=
  (start fs).log (Inputs.collect fs options.paths options.excludes).events

@[simp] lemma fs_collected (options : Options) (fs : FileSystem) :
    (collected options fs).fs = fs := rfl

/-- Reports the totals of `s`, if anything is reported. -/
def close (env : Environment) (display : Display) (s : Session) : Except Session Session :=
  if display.report then s.print env (Report.summaryLine display.coloured s.summary) else .ok s

/-- What `close` does leaves the totals and the file system alone. -/
lemma exists_close_eq (env : Environment) (display : Display) (s : Session) :
    ∃ s', s.close env display = goesOn (!env.outputWorks && display.report) s' ∧
      s'.fs = s.fs ∧ s'.summary = s.summary := by
  unfold close
  cases display.report with
  | true => simpa using exists_print_eq env s _
  | false => exact ⟨s, by simp [goesOn], rfl, rfl⟩

section

variable {env : Environment} {arguments : List Text} {options : Options} {fs : FileSystem}
  {limit : Nat} {inputs : List Text} {s : Session}

/-- The exit status is 1 if the run has `ended` early, and otherwise 0. -/
lemma run_of_goesOn (hoptions : Options.parse arguments = .ok options) {ended : Bool}
    (h : runOptions env options (start fs) = goesOn ended s) :
    run env arguments fs = ⟨s, if ended then 1 else 0, options.verbosity⟩ := by
  cases ended with
  | true => simp [run, hoptions, h, goesOn]
  | false => simp [run, hoptions, h, goesOn]

/-- A run leaves the file system alone if its `sizeLimit` or its inputs cannot be determined. -/
lemma run_of_failure (hoptions : Options.parse arguments = .ok options)
    (h : (∃ notice, sizeLimit options = .error notice) ∨
      ∃ failure, (Inputs.collect fs options.paths options.excludes).result = .error failure) :
    (run env arguments fs).session.fs = fs ∧ (run env arguments fs).status = 1 := by
  obtain ⟨s, hs, hfs⟩ : ∃ s, runOptions env options (start fs) = goesOn true s ∧ s.fs = fs := by
    unfold runOptions
    cases hlimit : sizeLimit options with
    | error notice => exact ⟨_, rfl, rfl⟩
    | ok limit =>
      obtain ⟨failure, hfailure⟩ := h.resolve_left (by simp [hlimit])
      have hcollect : (Inputs.collect (start fs).fs options.paths options.excludes).result =
          .error failure := hfailure
      refine ⟨(collected options fs).notify [.failure failure], ?_, rfl⟩
      simp only [hcollect]
      rfl
  rw [run_of_goesOn hoptions hs]
  exact ⟨hfs, rfl⟩

variable (hlimit : sizeLimit options = .ok limit)
  (hinputs : (Inputs.collect fs options.paths options.excludes).result = .ok inputs)
include hlimit hinputs

/-- A run processes its inputs with `processPaths` and then reports the totals with `close`. -/
lemma runOptions_eq :
    runOptions env options (start fs) =
      (processPaths env (options.display env) (options.config limit) inputs
        (collected options fs)).bind (close env (options.display env)) := by
  have hcollect : (Inputs.collect (start fs).fs options.paths options.excludes).result =
      .ok inputs := hinputs
  simp only [runOptions, hlimit, hcollect]
  rfl

variable (hoptions : Options.parse arguments = .ok options)
include hoptions

/-- A run that ends in the session `s` while its inputs are processed. -/
lemma run_of_error
    (h : processPaths env (options.display env) (options.config limit) inputs
      (collected options fs) = .error s) :
    run env arguments fs = ⟨s, 1, options.verbosity⟩ := by
  have hs : runOptions env options (start fs) = goesOn true s := by
    rw [runOptions_eq hlimit hinputs, h]
    rfl
  exact run_of_goesOn hoptions hs

/-- A run that has processed its inputs can still fail to report the totals; `s'` has the file
system and the totals of `s`. -/
lemma exists_run_of_ok
    (h : processPaths env (options.display env) (options.config limit) inputs
      (collected options fs) = .ok s) :
    ∃ s', s'.fs = s.fs ∧ s'.summary = s.summary ∧
      run env arguments fs =
        ⟨s', if !env.outputWorks && (options.display env).report then 1 else 0,
          options.verbosity⟩ := by
  obtain ⟨s', hs', hfs, hsummary⟩ := exists_close_eq env (options.display env) s
  refine ⟨s', hfs, hsummary, run_of_goesOn hoptions ?_⟩
  rw [runOptions_eq hlimit hinputs, h]
  exact hs'

end

/-- A run with `dryRun`, or with `json`, leaves the file system alone. -/
lemma fs_run_of_dryRun {env : Environment} {arguments : List Text} {options : Options}
    {fs : FileSystem} (hoptions : Options.parse arguments = .ok options)
    (hdry : (options.dryRun || options.json) = true) : (run env arguments fs).session.fs = fs := by
  cases hlimit : sizeLimit options with
  | error notice => exact (run_of_failure hoptions (.inl ⟨notice, hlimit⟩)).1
  | ok limit =>
    cases hinputs : (Inputs.collect fs options.paths options.excludes).result with
    | error failure => exact (run_of_failure hoptions (.inr ⟨failure, hinputs⟩)).1
    | ok inputs =>
      obtain ⟨s, hs, hfs, -⟩ := exists_processPaths env (options.display env)
        (options.config limit) inputs (collected options fs)
      have hsame : s.fs = fs := hfs.trans (turns_of_dryRun _ hdry inputs fs)
      unfold goesOn at hs
      split at hs
      · rw [run_of_error hlimit hinputs hoptions hs, hsame]
      · obtain ⟨s', hfs', -, hrun⟩ := exists_run_of_ok hlimit hinputs hoptions hs
        rw [hrun, hfs', hsame]

end Session

/-! ## Plain runs -/

/-- No variable is set, and standard output works. -/
def Environment.plain : Environment := ⟨none, none, none, none, true, false⟩

/-- The options of a run for which only `paths` are given. -/
def Options.plain (paths : List Text) : Options where
  paths := paths
  outDir := lit "."
  accessor := .standard
  excludes := []
  dryRun := false
  json := false
  maxFileSize := none
  colour := .auto
  quiet := false
  verbosity := 0

/-- The size limit of a run that is given the limit `100`. -/
lemma Session.sizeLimit_of_hundred {options : Options}
    (h : options.maxFileSize = some (lit "100")) : sizeLimit options = .ok 100 := by
  have hparse : (FileSize.parse (lit "100")).toOption = some 100 := by decide +kernel
  rw [sizeLimit, h]
  cases hlimit : FileSize.parse (lit "100") with
  | error fault => simp [hlimit, Except.toOption] at hparse
  | ok limit => simpa [hlimit, Except.toOption, Except.mapError] using hparse

/-- A source file in the working directory. -/
lemma resolvePlainly?_source :
    (FileSystem.withOneHandler [] [[lit "x.go"]]).resolvePlainly? (lit "x.go") =
      some (.occupied [lit "x.go"] (.file (Text.encode oneHandler))) := rfl

/-- The source file can be given a test file. -/
lemma destination?_source :
    (FileSystem.withOneHandler [] [[lit "x.go"]]).destination?
      (Path.companion (lit ".") (lit "x.go")) = some [lit "x_test.go"] :=
  FileSystem.destination?_of_resolvePlainly? rfl

/-- The source file is the input of a run for which its name is given. -/
lemma collect_source :
    (Inputs.collect (FileSystem.withOneHandler [] [[lit "x.go"]]) [lit "x.go"] []).result =
      .ok [lit "x.go"] := by
  apply Inputs.collect_of_isFile
  simpa using FileSystem.isFile_of_resolvePlainly? resolvePlainly?_source

/-- The handler of the source file is found. -/
lemma classifyFile_source {config : Config} (haccessor : config.accessor = .standard)
    (hsize : (Text.encode oneHandler).length ≤ config.maxFileSize) :
    (Generator.classifyFile (FileSystem.withOneHandler [] [[lit "x.go"]]) config
      (lit "x.go")).result = .ok oneHandlerFound :=
  result_classifyFile_oneHandler haccessor hsize
    (FileSystem.status_of_resolvePlainly? resolvePlainly?_source)

end RouteStubs
