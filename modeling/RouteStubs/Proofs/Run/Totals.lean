import Mathlib.Algebra.Order.Ring.Nat
import RouteStubs.Proofs.Run.Collisions
import RouteStubs.Proofs.Run.RecordStream

/-!
# Totals

The totals of a run account for its inputs. An input after which the run goes on is larger than
allowed, has no handlers, cannot be given a test file, or is listed with its test file, and it is
exactly one of these. `Session.Accounts` says what the totals are in terms of these kinds, and what
has been reported; every turn keeps it, and so does a whole run. The handlers of an input that
cannot be given a test file are not among the handlers found, although the input is among the files
that were classified.
-/

namespace RouteStubs

/-! ## Kinds of inputs -/

namespace Turn

variable (config : Config) (t : Turn)

/-- What is found in the input of `t`, if it can be classified. -/
def found? : Option Classification :=
  (Generator.classifyFile t.fs config t.path).result.toOption

/-- The number of handlers that are found in the input of `t`. -/
def handlerCount : Nat :=
  match t.found? config with
  | some found => found.handlers.length
  | none => 0

/-- The input of `t` is larger than `config.maxFileSize`. -/
def isOversized : Bool := Generator.isOversized t.fs config t.path

/-- The input can be classified, and it has no handlers. -/
def lacksHandlers : Bool := (t.found? config).any (·.handlers.isEmpty)

/-- The input has handlers, and its test file is to be written but cannot be created. -/
def lacksDestination : Bool :=
  decide (t.handlerCount config ≠ 0) && !config.dryRun &&
    (t.fs.destination? (Path.companion config.outDir t.path)).isNone

/-- The input has handlers, and its test file can be created or does not have to be. -/
def isListed : Bool :=
  decide (t.handlerCount config ≠ 0) && !t.lacksDestination config

/-- The line that the report has for the test file of the input of `t`. -/
def line (config : Config) (coloured : Bool) (t : Turn) : Text :=
  Report.writtenLine coloured (Path.companion config.outDir t.path) (t.handlerCount config)
    config.dryRun

variable {config t}

/-- An input for which `classifyFile` fails is none of `lacksHandlers`, `lacksDestination` and
`isListed`. -/
lemma kind_of_unclassified {failure : Failure}
    (h : (Generator.classifyFile t.fs config t.path).result = .error failure) :
    t.lacksHandlers config = false ∧ t.lacksDestination config = false ∧
      t.isListed config = false := by
  simp [lacksHandlers, lacksDestination, isListed, handlerCount, found?, h, Except.toOption]

/-- An input that is classified is not `isOversized`. -/
lemma isOversized_of_classified {found : Classification}
    (h : (Generator.classifyFile t.fs config t.path).result = .ok found) :
    t.isOversized config = false := by
  rw [Bool.eq_false_iff]
  intro hsize
  obtain ⟨size, hfailure⟩ := Generator.exists_classifyFile_of_isOversized hsize
  rw [h] at hfailure
  cases hfailure

/-- An input without handlers `lacksHandlers` and is of no other kind. -/
lemma kind_of_noHandlers {found : Classification}
    (h : (Generator.classifyFile t.fs config t.path).result = .ok found)
    (hhandlers : found.handlers = []) :
    t.isOversized config = false ∧ t.lacksHandlers config = true ∧
      t.lacksDestination config = false ∧ t.isListed config = false := by
  refine ⟨isOversized_of_classified h, ?_⟩
  simp [lacksHandlers, lacksDestination, isListed, handlerCount, found?, h, hhandlers,
    Except.toOption]

/-- An input with handlers for which a test file can be created, or does not have to be, `isListed`
and is of no other kind. -/
lemma kind_of_placed {found : Classification}
    (h : (Generator.classifyFile t.fs config t.path).result = .ok found)
    (hhandlers : found.handlers ≠ [])
    (hplace : config.dryRun = true ∨
      ∃ place, t.fs.destination? (Path.companion config.outDir t.path) = some place) :
    t.isOversized config = false ∧ t.lacksHandlers config = false ∧
      t.lacksDestination config = false ∧ t.isListed config = true ∧
      t.handlerCount config = found.handlers.length := by
  have hcount : t.handlerCount config = found.handlers.length := by
    simp [handlerCount, found?, h, Except.toOption]
  have hdestination : t.lacksDestination config = false := by
    rcases hplace with hdry | ⟨place, hplace⟩
    · simp [lacksDestination, hdry]
    · simp [lacksDestination, hplace]
  refine ⟨isOversized_of_classified h, ?_, hdestination, ?_, hcount⟩
  · simp [lacksHandlers, found?, h, hhandlers, Except.toOption]
  · simp [isListed, hcount, hhandlers, hdestination]

/-- An input with handlers for which no test file can be created `lacksDestination` and is of no
other kind. -/
lemma kind_of_unplaced {found : Classification}
    (h : (Generator.classifyFile t.fs config t.path).result = .ok found)
    (hhandlers : found.handlers ≠ []) (hdry : config.dryRun = false)
    (hplace : t.fs.destination? (Path.companion config.outDir t.path) = none) :
    t.isOversized config = false ∧ t.lacksHandlers config = false ∧
      t.lacksDestination config = true ∧ t.isListed config = false ∧
      t.handlerCount config = found.handlers.length := by
  have hcount : t.handlerCount config = found.handlers.length := by
    simp [handlerCount, found?, h, Except.toOption]
  have hdestination : t.lacksDestination config = true := by
    simp [lacksDestination, hcount, hhandlers, hdry, hplace]
  refine ⟨isOversized_of_classified h, ?_, hdestination, ?_, hcount⟩
  · simp [lacksHandlers, found?, h, hhandlers, Except.toOption]
  · simp [isListed, hdestination]

end Turn

/-- The line that is reported for a result, if there is one. -/
def reportedLine (coloured : Bool) : Except Failure Outcome → Text
  | .ok (.written output found) =>
    Report.writtenLine coloured output found.handlers.length false
  | .ok (.planned output found) =>
    Report.writtenLine coloured output found.handlers.length true
  | _ => []

/-- A failure of `classifyFile` that is not fatal is `tooLarge`, and the input is `isOversized`. -/
lemma Generator.exists_eq_tooLarge {fs : FileSystem} {config : Config} {path : Text}
    {failure : Failure} (h : (classifyFile fs config path).result = .error failure)
    (hgoes : failure.isFatal = false) :
    isOversized fs config path = true ∧
      ∃ size, failure = .tooLarge path size config.maxFileSize := by
  obtain ⟨place, e, hstatus, hsize⟩ := exists_status_of_classifyFile h hgoes
  have hoversized : isOversized fs config path = true := by simp [isOversized, hstatus, hsize]
  obtain ⟨size, htooLarge⟩ := exists_classifyFile_of_isOversized hoversized
  exact ⟨hoversized, size, Except.error.inj (h.symm.trans htooLarge)⟩

/-- An `outcome` with a test file is counted as classified and, without `json`, as written. -/
lemma Summary.record_of_output? (json : Bool) (s : Summary) {outcome : Outcome} {output : Text}
    (h : outcome.output? = some output) :
    s.record json (.ok outcome) =
      ⟨s.scanned + 1, s.written + if json then 0 else 1,
        s.handlers + outcome.found.handlers.length, s.skipped⟩ := by
  cases json <;> simp [record, h, recordScanned, addWritten]

namespace Turn

/-- An input after which the run goes on is of exactly one of four kinds, and its kind decides what
its turn adds to the totals `s` and to the report. -/
lemma account_of_course {config : Config} {t : Turn} {fs' : FileSystem}
    (hcourse : Course config t.fs t.path t.result fs') (hgoes : isFatal t.result = false)
    (json coloured : Bool) (s : Summary) :
    (if t.isListed config then 1 else 0) + (if t.isOversized config then 1 else 0) +
        (if t.lacksDestination config then 1 else 0) +
        (if t.lacksHandlers config then 1 else 0) = 1 ∧
      s.record json t.result =
        ⟨s.scanned + if t.isOversized config then 0 else 1,
          s.written + if json then 0 else if t.isListed config then 1 else 0,
          s.handlers + if t.isListed config then t.handlerCount config else 0,
          s.skipped + (if t.isOversized config then 1 else 0) +
            if t.lacksDestination config then 1 else 0⟩ ∧
      reportedLine coloured t.result =
        if t.isListed config then t.line config coloured else [] := by
  generalize t.result = result at hcourse hgoes ⊢
  cases hcourse with
  | unclassified classified =>
    obtain ⟨hsize, size, rfl⟩ := Generator.exists_eq_tooLarge classified hgoes
    have hoversized : t.isOversized config = true := hsize
    obtain ⟨hhandlers, hdestination, hlisted⟩ := kind_of_unclassified classified
    simp [hoversized, hhandlers, hdestination, hlisted, Summary.record, Summary.addSkipped,
      reportedLine]
  | noHandlers classified handlers =>
    obtain ⟨hsize, hhandlers, hdestination, hlisted⟩ := kind_of_noHandlers classified handlers
    simp [hsize, hhandlers, hdestination, hlisted, handlers, Summary.record, Summary.recordScanned,
      Outcome.found, Outcome.output?, reportedLine]
  | planned classified handlers dry =>
    obtain ⟨hsize, hhandlers, hdestination, hlisted, hcount⟩ :=
      kind_of_placed classified handlers (.inl dry)
    rw [Summary.record_of_output? json s rfl]
    simp [hsize, hhandlers, hdestination, hlisted, hcount, dry, line, Outcome.found, reportedLine]
  | written classified handlers real destination =>
    obtain ⟨hsize, hhandlers, hdestination, hlisted, hcount⟩ :=
      kind_of_placed classified handlers (.inr ⟨_, destination⟩)
    rw [Summary.record_of_output? json s rfl]
    simp [hsize, hhandlers, hdestination, hlisted, hcount, real, line, Outcome.found, reportedLine]
  | uncreatable classified handlers real destination =>
    obtain ⟨hsize, hhandlers, hdestination, hlisted, -⟩ :=
      kind_of_unplaced classified handlers real destination
    simp [hsize, hhandlers, hdestination, hlisted, Summary.record, Summary.recordScanned,
      Summary.addSkipped, Failure.isFatal, reportedLine]
  -- A test file that can be created but not filled ends the run.
  | cutShort => cases hgoes
  | fullDevice => cases hgoes

end Turn

/-! ## Sessions -/

namespace Session

variable {env : Environment} {display : Display} {config : Config} {path : Text} {s s' : Session}

/-- What is reported of the turns `ts`: the lines of the inputs that are listed. -/
def Display.listing (display : Display) (config : Config) (ts : List Turn) : Text :=
  if display.report then
    (ts.filter (Turn.isListed config)).flatMap (Turn.line config display.coloured)
  else []

/-- The session `s` accounts for the turns `ts`: its totals are those of the kinds of the inputs,
and without JSON it has printed the lines of the inputs that are listed. -/
structure Accounts (config : Config) (display : Display) (ts : List Turn) (s : Session) : Prop where
  kinds : ts.countP (Turn.isListed config) + ts.countP (Turn.isOversized config) +
    ts.countP (Turn.lacksDestination config) + ts.countP (Turn.lacksHandlers config) = ts.length
  scanned : s.summary.scanned + ts.countP (Turn.isOversized config) = ts.length
  written : display.json = false → s.summary.written = ts.countP (Turn.isListed config)
  handlers : s.summary.handlers =
    ((ts.filter (Turn.isListed config)).map (Turn.handlerCount config)).sum
  skipped : s.summary.skipped =
    ts.countP (Turn.isOversized config) + ts.countP (Turn.lacksDestination config)
  output : display.json = false → s.output = display.listing config ts

lemma goesOn_eq_ok_iff {ended : Bool} : goesOn ended s = .ok s' ↔ ended = false ∧ s = s' := by
  cases ended <;> simp [goesOn]

/-- A result after which a run goes on is not `isFatal`. -/
lemma isFatal_of_ends {result : Except Failure Outcome} (h : ends env display result = false) :
    isFatal result = false := by
  cases result with
  | ok outcome => rfl
  | error failure => exact h

/-- What `print` does is to add the text `t` to standard output. -/
lemma output_of_print {t : Text} (h : s.print env t = .ok s') : s'.output = s.output ++ t := by
  unfold print at h
  split_ifs at h
  cases h
  rfl

/-- Without JSON `recordOutcome` adds the `reportedLine` of the outcome to standard output. -/
lemma output_of_recordOutcome {outcome : Outcome} (hjson : display.json = false)
    (h : recordOutcome env display path outcome s = .ok s') :
    s'.output = s.output ++
      if display.report then reportedLine display.coloured (.ok outcome) else [] := by
  obtain ⟨json, report, coloured⟩ := display
  obtain rfl : json = false := hjson
  cases outcome with
  | noHandlers found =>
    cases h
    cases report <;> exact (List.append_nil _).symm
  | written output found =>
    cases report with
    | false =>
      cases h
      exact (List.append_nil _).symm
    | true =>
      have houtput := output_of_print h
      exact houtput
  | planned output found =>
    cases report with
    | false =>
      cases h
      exact (List.append_nil _).symm
    | true =>
      have houtput := output_of_print h
      exact houtput

/-- Without JSON `processPath` adds the `reportedLine` of the result to standard output. -/
lemma output_of_processPath (hjson : display.json = false)
    (h : processPath env display config path s = .ok s') :
    s'.output = s.output ++
      if display.report then
        reportedLine display.coloured (Turn.take config s.fs path).1.result
      else [] := by
  revert h
  unfold processPath Turn.take
  obtain ⟨events, outcome, fs⟩ := Generator.processFile s.fs config path
  intro h
  cases outcome with
  | ok outcome =>
    have houtput := output_of_recordOutcome hjson h
    exact houtput
  | error failure =>
    dsimp only at h
    split_ifs at h
    cases h
    simp [reportedLine, recordSkipped, notify, log]

/-- After the turn of `path` a session that accounts for `ts` accounts for this turn, too. -/
lemma Accounts.processPath {ts : List Turn} (hs : s.Accounts config display ts)
    (h : processPath env display config path s = .ok s') :
    s'.Accounts config display (ts ++ [(Turn.take config s.fs path).1]) := by
  obtain ⟨s₁, hs₁, -, hsummary⟩ := exists_processPath env display config path s
  obtain ⟨hends, rfl⟩ := goesOn_eq_ok_iff.mp (hs₁.symm.trans h)
  have hgoes := isFatal_of_ends hends
  have hcourse : Turn.Course config (Turn.take config s.fs path).1.fs
      (Turn.take config s.fs path).1.path (Turn.take config s.fs path).1.result
      (Turn.take config s.fs path).2 := by
    simpa using Turn.course_take config s.fs path
  obtain ⟨hkinds, hrecord, hline⟩ :=
    Turn.account_of_course hcourse hgoes display.json display.coloured s.summary
  have houtput (hjson : display.json = false) := output_of_processPath hjson h
  have hkinds' := hs.kinds
  have hscanned' := hs.scanned
  -- From here on only the kind of the turn matters.
  generalize (Turn.take config s.fs path).1 = t at hkinds hrecord hline hsummary houtput ⊢
  rw [hrecord] at hsummary
  constructor
  case kinds =>
    simp only [List.countP_append, List.countP_singleton, List.length_append,
      List.length_singleton]
    omega
  case scanned =>
    simp only [hsummary, List.countP_append, List.countP_singleton, List.length_append,
      List.length_singleton]
    split_ifs <;> omega
  case written =>
    intro hjson
    simp [hsummary, hs.written hjson, hjson, List.countP_append, List.countP_singleton]
  case handlers =>
    rw [hsummary, hs.handlers, List.filter_append, List.map_append, List.sum_append]
    cases hlisted : t.isListed config <;> simp [hlisted]
  case skipped =>
    simp only [hsummary, hs.skipped, List.countP_append, List.countP_singleton]
    omega
  case output =>
    intro hjson
    rw [houtput hjson, hs.output hjson, hline]
    unfold Display.listing
    cases display.report <;> cases hlisted : t.isListed config <;>
      simp [hlisted, List.filter_append]

/-- After the turns of `paths` a session that accounts for `ts` accounts for these turns, too. The
induction is on `paths`. -/
lemma Accounts.processPaths {paths : List Text} {ts : List Turn}
    (hs : s.Accounts config display ts)
    (h : processPaths env display config paths s = .ok s') :
    s'.Accounts config display (ts ++ (allTurns config paths s.fs).1) := by
  -- The turns of the past are carried along, since each input finds what the ones before it left.
  induction paths generalizing s ts with
  | nil =>
    cases h
    simpa [allTurns, turns] using hs
  | cons path paths ih =>
    cases hpath : Session.processPath env display config path s with
    | error s₁ =>
      rw [Session.processPaths, hpath] at h
      cases h
    | ok s₁ =>
      rw [Session.processPaths, hpath] at h
      obtain ⟨s₂, hs₂, hfs, -⟩ := exists_processPath env display config path s
      obtain ⟨-, rfl⟩ := goesOn_eq_ok_iff.mp (hs₂.symm.trans hpath)
      have hall := ih (hs.processPath hpath) h
      rwa [hfs, List.append_assoc, List.singleton_append] at hall

/-- What `close` adds to standard output is the line of the totals, if standard output works. -/
lemma exists_close_output (env : Environment) (display : Display) (s : Session) :
    ∃ s', s.close env display = goesOn (display.report && !env.outputWorks) s' ∧
      s'.summary = s.summary ∧
      s'.output = s.output ++
        if display.report && env.outputWorks then Report.summaryLine display.coloured s.summary
        else [] := by
  unfold close print
  cases display.report with
  | false => exact ⟨s, rfl, rfl, by simp⟩
  | true =>
    cases env.outputWorks with
    | false => exact ⟨_, rfl, rfl, by simp [notify]⟩
    | true => exact ⟨_, rfl, rfl, rfl⟩

end Session

/-! ## Whole runs -/

/-- If no turn among `allTurns` ends the run, these are the `turns`. -/
lemma turns_of_forall_not_ends {ends : Except Failure Outcome → Bool} {config : Config}
    {paths : List Text} {fs : FileSystem}
    (h : ∀ t ∈ (allTurns config paths fs).1, ends t.result = false) :
    turns ends config paths fs = allTurns config paths fs := by
  induction paths generalizing fs with
  | nil => rfl
  | cons path paths ih =>
    rw [allTurns_cons] at h ⊢
    have hends := h _ List.mem_cons_self
    rw [turns_cons_of_not_ends hends, ih fun t ht => h t (List.mem_cons_of_mem _ ht)]

/-- A run that goes through its inputs: the arguments can be read, the inputs can be determined, and
none of them ends the run. -/
structure CompleteRun where
  env : Environment
  arguments : List Text
  options : Options
  parsed : Options.parse arguments = .ok options
  limit : Nat
  limited : Session.sizeLimit options = .ok limit
  fs : FileSystem
  inputs : List Text
  collected : (Inputs.collect fs options.paths options.excludes).result = .ok inputs
  complete : ∀ t ∈ (allTurns (options.config limit) inputs fs).1,
    Session.ends env (options.display env) t.result = false

namespace CompleteRun

variable (r : CompleteRun)

/-- How files are processed in the run `r`. -/
def config : Config := r.options.config r.limit

/-- What is shown in the run `r`. -/
def display : Session.Display := r.options.display r.env

/-- The turns of the inputs of `r`. -/
def turns : List Turn := (allTurns r.config r.inputs r.fs).1

/-- How the run `r` ends. -/
def ending : Ending := Session.run r.env r.arguments r.fs

/-- The totals of the run `r`. -/
def summary : Summary := r.ending.session.summary

/-- The run `r` passes through a session `s` that accounts for its turns, and then it reports the
totals. -/
lemma exists_accounts :
    ∃ s : Session, s.Accounts r.config r.display r.turns ∧ r.summary = s.summary ∧
      r.ending.status = (if r.display.report && !r.env.outputWorks then 1 else 0) ∧
      r.ending.session.output = s.output ++
        if r.display.report && r.env.outputWorks then
          Report.summaryLine r.display.coloured r.summary
        else [] := by
  obtain ⟨s, hs, -, -⟩ := Session.exists_processPaths r.env r.display r.config r.inputs
    (Session.collected r.options r.fs)
  have hends : ((allTurns r.config r.inputs r.fs).1.any fun t =>
      Session.ends r.env r.display t.result) = false :=
    List.any_eq_false.mpr fun t ht => Bool.eq_false_iff.mp (r.complete t ht)
  have hturns : RouteStubs.turns (Session.ends r.env r.display) r.config r.inputs r.fs =
      allTurns r.config r.inputs r.fs :=
    turns_of_forall_not_ends r.complete
  -- No input ends the run, so that all of them are processed before the totals are reported.
  rw [Session.fs_collected, hturns, hends] at hs
  obtain ⟨s', hs', hsummary, houtput⟩ := Session.exists_close_output r.env r.display s
  have hrun : r.ending =
      ⟨s', if r.display.report && !r.env.outputWorks then 1 else 0, r.options.verbosity⟩ := by
    apply Session.run_of_goesOn r.parsed
    rw [Session.runOptions_eq r.limited r.collected]
    change (Session.processPaths r.env r.display r.config r.inputs _).bind _ = _
    rw [hs]
    exact hs'
  have hstart : (Session.collected r.options r.fs).Accounts r.config r.display [] := by
    refine ⟨rfl, rfl, fun _ => rfl, rfl, rfl, fun _ => ?_⟩
    cases hreport : r.display.report <;> simp [Session.Display.listing, hreport] <;> rfl
  rw [summary, hrun]
  exact ⟨s, hstart.processPaths hs, hsummary, rfl, by rw [houtput, hsummary]⟩

/-- Every input has its turn, in order. -/
lemma map_path_turns : r.turns.map Turn.path = r.inputs :=
  map_path_allTurns r.config r.inputs r.fs

/-- The handlers that the run counts are those of the inputs that are listed. -/
lemma handlers_summary :
    r.summary.handlers =
      ((r.turns.filter (Turn.isListed r.config)).map (Turn.handlerCount r.config)).sum := by
  obtain ⟨s, hs, hsummary, -⟩ := r.exists_accounts
  rw [hsummary, hs.handlers]

end CompleteRun

/-- The handlers of an input count if it `isListed` or if it `lacksDestination`, and otherwise there
are none. -/
lemma Turn.handlerCount_eq_add (config : Config) (t : Turn) :
    t.handlerCount config =
      (if t.isListed config then t.handlerCount config else 0) +
        if t.lacksDestination config then t.handlerCount config else 0 := by
  by_cases hcount : t.handlerCount config = 0
  · simp [hcount]
  · cases hdestination : t.lacksDestination config <;> simp [isListed, hcount, hdestination]

/-- The inputs that are listed and those that lack a destination have together all the handlers. -/
lemma sum_handlerCount (config : Config) (ts : List Turn) :
    ((ts.filter (Turn.isListed config)).map (Turn.handlerCount config)).sum +
        ((ts.filter (Turn.lacksDestination config)).map (Turn.handlerCount config)).sum =
      (ts.map (Turn.handlerCount config)).sum := by
  induction ts with
  | nil => rfl
  | cons t ts ih =>
    have hsum (p : Turn → Bool) : (((t :: ts).filter p).map (Turn.handlerCount config)).sum =
        (if p t then t.handlerCount config else 0) +
          ((ts.filter p).map (Turn.handlerCount config)).sum := by
      cases hp : p t <;> simp [hp]
    have hcount := t.handlerCount_eq_add config
    rw [hsum, hsum, List.map_cons, List.sum_cons, ← ih]
    omega

/-- The inputs that lack a destination have no handlers exactly if there are no such inputs. -/
lemma sum_lacksDestination_eq_zero_iff (config : Config) (ts : List Turn) :
    ((ts.filter (Turn.lacksDestination config)).map (Turn.handlerCount config)).sum = 0 ↔
      ∀ t ∈ ts, t.lacksDestination config = false := by
  rw [List.sum_eq_zero_iff_forall_eq_nat]
  constructor
  · intro hzero t ht
    cases hdestination : t.lacksDestination config with
    | false => rfl
    | true =>
      have hcount := hzero _ (List.mem_map_of_mem (List.mem_filter.mpr ⟨ht, hdestination⟩))
      simp [Turn.lacksDestination, hcount] at hdestination
  · intro hall n hn
    obtain ⟨t, ht, -⟩ := List.mem_map.mp hn
    have hdestination := hall t (List.mem_filter.mp ht).1
    simp [hdestination] at ht

/-! ## A run with a directory in the way -/

namespace CompleteRun

/-- The source files `x.go` and `y.go`, and a directory in the place of the test file of `y.go`. -/
def blockedFs : FileSystem :=
  .withOneHandler [[lit "y_test.go"]] [[lit "x.go"], [lit "y.go"]]

/-- How the source files in `blockedFs` are processed. -/
def blockedConfig : Config :=
  (Options.plain [lit "y.go", lit "x.go"]).config Config.standardFileSize

/-- The turn of `y.go`, with the directory in the way of its test file. -/
def blockedTurn : Turn where
  path := lit "y.go"
  fs := blockedFs
  result := .error (.creation (Path.companion (lit ".") (lit "y.go")) .isDirectory)

/-- The turn of `x.go`. -/
def freeTurn : Turn where
  path := lit "x.go"
  fs := blockedFs
  result := .ok (.written (Path.companion (lit ".") (lit "x.go")) oneHandlerFound)

lemma classifyFile_blockedTurn :
    (Generator.classifyFile blockedFs blockedConfig (lit "y.go")).result = .ok oneHandlerFound := by
  have hplace : blockedFs.resolvePlainly? (lit "y.go") =
      some (.occupied [lit "y.go"] (.file (Text.encode oneHandler))) := rfl
  exact result_classifyFile_oneHandler rfl (by decide) (FileSystem.status_of_resolvePlainly? hplace)

lemma classifyFile_freeTurn :
    (Generator.classifyFile blockedFs blockedConfig (lit "x.go")).result = .ok oneHandlerFound := by
  have hplace : blockedFs.resolvePlainly? (lit "x.go") =
      some (.occupied [lit "x.go"] (.file (Text.encode oneHandler))) := rfl
  exact result_classifyFile_oneHandler rfl (by decide) (FileSystem.status_of_resolvePlainly? hplace)

lemma resolve_blockedTurn : blockedFs.resolve true (Path.companion (lit ".") (lit "y.go")) =
    .ok (.occupied [lit "y_test.go"] .directory) :=
  FileSystem.resolve_of_resolvePlainly? rfl true

lemma destination?_freeTurn : blockedFs.destination? (Path.companion (lit ".") (lit "x.go")) =
    some [lit "x_test.go"] :=
  FileSystem.destination?_of_resolvePlainly? rfl

/-- Of the source files in `blockedFs`, `y.go` is passed over and `x.go` is given its test file. -/
lemma allTurns_blocked :
    (allTurns blockedConfig [lit "y.go", lit "x.go"] blockedFs).1 = [blockedTurn, freeTurn] := by
  have hcreate : blockedFs.create (Path.companion (lit ".") (lit "y.go")) =
      .error .isDirectory := by
    rw [FileSystem.create, resolve_blockedTurn]
  have hroom : blockedFs.Unlimited := fun _ _ => rfl
  rw [allTurns_cons, Turn.take_uncreatable classifyFile_blockedTurn handlers_oneHandlerFound rfl
    hcreate, allTurns_cons, Turn.take_written classifyFile_freeTurn handlers_oneHandlerFound rfl
    destination?_freeTurn (hroom.takes _ _)]
  rfl

lemma kind_blockedTurn :
    blockedTurn.isOversized blockedConfig = false ∧
      blockedTurn.lacksDestination blockedConfig = true ∧
      blockedTurn.isListed blockedConfig = false ∧ blockedTurn.handlerCount blockedConfig = 1 := by
  have hplace : blockedFs.destination? (Path.companion (lit ".") (lit "y.go")) = none := by
    rw [FileSystem.destination?, resolve_blockedTurn]
  obtain ⟨hsize, -, hdestination, hlisted, hcount⟩ :=
    Turn.kind_of_unplaced (t := blockedTurn) classifyFile_blockedTurn handlers_oneHandlerFound rfl
      hplace
  exact ⟨hsize, hdestination, hlisted, hcount⟩

lemma kind_freeTurn :
    freeTurn.isOversized blockedConfig = false ∧
      freeTurn.lacksDestination blockedConfig = false ∧
      freeTurn.isListed blockedConfig = true ∧ freeTurn.handlerCount blockedConfig = 1 := by
  obtain ⟨hsize, -, hdestination, hlisted, hcount⟩ :=
    Turn.kind_of_placed (t := freeTurn) classifyFile_freeTurn handlers_oneHandlerFound
      (.inr ⟨_, destination?_freeTurn⟩)
  exact ⟨hsize, hdestination, hlisted, hcount⟩

/-- The run on the source files in `blockedFs`. -/
def blocked : CompleteRun where
  env := .plain
  arguments := [lit "y.go", lit "x.go"]
  options := .plain [lit "y.go", lit "x.go"]
  parsed := rfl
  limit := Config.standardFileSize
  limited := rfl
  fs := blockedFs
  inputs := [lit "y.go", lit "x.go"]
  collected := collect_two rfl rfl
  complete := by
    change ∀ t ∈ (allTurns blockedConfig [lit "y.go", lit "x.go"] blockedFs).1, _
    rw [allTurns_blocked]
    simp [blockedTurn, freeTurn, Session.ends, Failure.isFatal, Environment.plain]

lemma turns_blocked : blocked.turns = [blockedTurn, freeTurn] := allTurns_blocked

/-- The kinds of the source files in `blockedFs`. -/
lemma kinds_blocked :
    blocked.turns.countP (Turn.isOversized blocked.config) = 0 ∧
      blocked.turns.countP (Turn.lacksDestination blocked.config) = 1 ∧
      blocked.turns.filter (Turn.isListed blocked.config) = [freeTurn] ∧
      (blocked.turns.map (Turn.handlerCount blocked.config)).sum = 2 := by
  have hconfig : blocked.config = blockedConfig := rfl
  obtain ⟨hsize, hlacks, hlisted, hcount⟩ := kind_blockedTurn
  obtain ⟨hsize', hlacks', hlisted', hcount'⟩ := kind_freeTurn
  rw [turns_blocked, hconfig]
  simp [hsize, hsize', hlacks, hlacks', hlisted, hlisted', hcount, hcount']

/-! ## What the totals say -/

/-- A run without JSON accounts for every input exactly once: it is written or passed over, or it
has no handlers. The inputs that are too large and those that cannot be given a test file are passed
over, and all inputs but the former are classified. The report has a line for every test file, and
the handlers found are those on its lines. -/
theorem inputs_accounted (r : CompleteRun) (hjson : r.options.json = false) :
    let listed := r.turns.filter (Turn.isListed r.config)
    r.turns.map Turn.path = r.inputs ∧
      r.summary.written + r.summary.skipped + r.turns.countP (Turn.lacksHandlers r.config) =
        r.inputs.length ∧
      r.summary.skipped = r.turns.countP (Turn.isOversized r.config) +
        r.turns.countP (Turn.lacksDestination r.config) ∧
      r.summary.scanned + r.turns.countP (Turn.isOversized r.config) = r.inputs.length ∧
      r.summary.written = listed.length ∧
      r.summary.handlers = (listed.map (Turn.handlerCount r.config)).sum ∧
      r.ending.session.output =
        if r.display.report then
          listed.flatMap (Turn.line r.config r.display.coloured) ++
            if r.env.outputWorks then Report.summaryLine r.display.coloured r.summary else []
        else [] := by
  intro listed
  obtain ⟨s, hs, hsummary, -, houtput⟩ := r.exists_accounts
  have hlength : r.turns.length = r.inputs.length := by
    rw [← r.map_path_turns, List.length_map]
  have hkinds := hs.kinds
  have hscanned := hs.scanned
  have hwritten := hs.written hjson
  have hskipped := hs.skipped
  rw [← hsummary] at hscanned hwritten hskipped
  refine ⟨r.map_path_turns, by omega, hskipped, by omega, ?_, r.handlers_summary, ?_⟩
  · rw [hwritten, List.countP_eq_length_filter]
  · rw [houtput, hs.output hjson, Session.Display.listing]
    cases r.display.report <;> simp [listed]

/-- The run `blocked` lists one of the two source files, and it counts the handlers of this one
only. -/
theorem inputs_accounted_blocked :
    blocked.options.json = false ∧ blocked.inputs.length = 2 ∧ blocked.summary = ⟨2, 1, 1, 1⟩ ∧
      blocked.ending.session.output = lit ("wrote ./x_test.go (1 handler)\n" ++
        "2 files scanned, 1 handler found, 1 file generated, 1 skipped\n") := by
  obtain ⟨hsizes, hlacks, hlisted, -⟩ := kinds_blocked
  have hcount : freeTurn.handlerCount blocked.config = 1 := kind_freeTurn.2.2.2
  obtain ⟨-, -, hskipped, hscanned, hwritten, hhandlers, houtput⟩ := inputs_accounted blocked rfl
  rw [hsizes, hlacks] at hskipped
  rw [hsizes, Nat.add_zero] at hscanned
  rw [hlisted] at hwritten
  rw [hlisted, List.map_singleton, List.sum_singleton, hcount] at hhandlers
  have hsummary : blocked.summary = ⟨2, 1, 1, 1⟩ :=
    calc
      blocked.summary = ⟨blocked.summary.scanned, blocked.summary.written,
          blocked.summary.handlers, blocked.summary.skipped⟩ := rfl
      _ = ⟨2, 1, 1, 1⟩ := by
        rw [hscanned, hwritten, hhandlers, hskipped]
        rfl
  refine ⟨rfl, rfl, hsummary, ?_⟩
  rw [houtput, hsummary, hlisted, List.flatMap_singleton, Turn.line, hcount]
  decide

/-- The handlers found, together with those of the inputs that cannot be given a test file, are the
handlers of all inputs. So they are all the handlers exactly if there is no such input. -/
theorem handlers_complete_iff (r : CompleteRun) :
    r.turns.map Turn.path = r.inputs ∧
      r.summary.handlers +
          ((r.turns.filter (Turn.lacksDestination r.config)).map (Turn.handlerCount r.config)).sum =
        (r.turns.map (Turn.handlerCount r.config)).sum ∧
      (r.summary.handlers = (r.turns.map (Turn.handlerCount r.config)).sum ↔
        ∀ t ∈ r.turns, t.lacksDestination r.config = false) := by
  have htotal := sum_handlerCount r.config r.turns
  rw [← r.handlers_summary] at htotal
  refine ⟨r.map_path_turns, htotal, ?_⟩
  rw [← sum_lacksDestination_eq_zero_iff, ← htotal]
  omega

/-- The run `blocked` misses one of two handlers. -/
theorem handlers_complete_iff_blocked :
    blocked.summary.handlers ≠ (blocked.turns.map (Turn.handlerCount blocked.config)).sum ∧
      ∃ t ∈ blocked.turns, t.lacksDestination blocked.config = true := by
  have hmem : blockedTurn ∈ blocked.turns := by
    rw [turns_blocked]
    exact List.mem_cons_self
  have hlacks : blockedTurn.lacksDestination blocked.config = true := kind_blockedTurn.2.1
  refine ⟨fun hequal => ?_, blockedTurn, hmem, hlacks⟩
  have hplaced := (handlers_complete_iff blocked).2.2.mp hequal blockedTurn hmem
  rw [hlacks] at hplaced
  cases hplaced

/-- Both source files are classified, and together they have two handlers, but the run finds only
one. -/
theorem directory_hides_handler :
    let inputs := [lit "y.go", lit "x.go"]
    let config := (Options.plain inputs).config Config.standardFileSize
    let fs := FileSystem.withOneHandler [[lit "y_test.go"]] [[lit "x.go"], [lit "y.go"]]
    let ending := Session.run .plain inputs fs
    Options.parse inputs = .ok (.plain inputs) ∧
      (Inputs.collect fs inputs []).result = .ok inputs ∧
      (Generator.classifyFile fs config (lit "y.go")).result = .ok oneHandlerFound ∧
      (Generator.classifyFile fs config (lit "x.go")).result = .ok oneHandlerFound ∧
      ((allTurns config inputs fs).1.map (Turn.handlerCount config)).sum = 2 ∧
      ending.status = 0 ∧ ending.session.summary.scanned = 2 ∧
      ending.session.summary.handlers = 1 := by
  intro inputs config fs ending
  obtain ⟨hsizes, -, hlisted, htotal⟩ := kinds_blocked
  obtain ⟨s, hs, hsummary, hstatus, -⟩ := blocked.exists_accounts
  have hscanned := hs.scanned
  rw [← hsummary, hsizes, turns_blocked] at hscanned
  have hhandlers := blocked.handlers_summary
  rw [hlisted, List.map_singleton, List.sum_singleton] at hhandlers
  exact ⟨rfl, blocked.collected, classifyFile_blockedTurn, classifyFile_freeTurn, htotal, hstatus,
    hscanned, hhandlers.trans kind_freeTurn.2.2.2⟩

end CompleteRun

end RouteStubs
