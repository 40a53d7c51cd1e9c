import Mathlib.Data.List.Basic
import Mathlib.Data.List.TakeWhile
import RouteStubs.Proofs.Report.Json
import RouteStubs.Proofs.Run.Sessions

/-!
# Runs that write records

With JSON a run writes no test files and reports no totals. It prints the record of each input that
can be classified, in the order of the inputs, until one of them ends the run; of an input that is
too large there is no record. This is what one input adds to standard output, and by induction what
all of them do. Since records are read back, the output of a run tells its records.
-/

namespace RouteStubs

namespace Generator

/-- The source file `path` is larger than `config.maxFileSize`. -/
def isOversized (fs : FileSystem) (config : Config) (path : Text) : Bool :=
  match fs.status path with
  | .ok (_, e) => decide (config.maxFileSize < e.size)
  | .error _ => false

/-- What is done with the source file `path` fails, and the failure is fatal. -/
def endsRun (fs : FileSystem) (config : Config) (path : Text) : Bool :=
  isFatal (Turn.take config fs path).1.result

/-- The path of a source file with what `classifyFile` finds in it, if it can be classified. -/
def record? (fs : FileSystem) (config : Config) (path : Text) : Option (Text × Classification) :=
  (classifyFile fs config path).result.toOption.map (path, ·)

/-- What is found in the `inputs` in front of the first one that ends the run. -/
def records (fs : FileSystem) (config : Config) (inputs : List Text) :
    List (Text × Classification) :=
  (inputs.takeWhile (!endsRun fs config ·)).filterMap (record? fs config)

variable {fs : FileSystem} {config : Config} {path : Text}

/-- For a file that is too large `classifyFile` fails with `tooLarge`. -/
lemma exists_classifyFile_of_isOversized (h : isOversized fs config path = true) :
    ∃ size, (classifyFile fs config path).result =
      .error (.tooLarge path size config.maxFileSize) := by
  unfold isOversized at h
  split at h
  · next place e hstatus =>
    exact ⟨e.size, result_classifyFile_of_tooLarge hstatus (by simpa using h)⟩
  · cases h

/-- In a dry run a source file ends the run if and only if `classifyFile` fails with a fatal
failure. -/
lemma endsRun_of_dryRun (hdry : config.dryRun = true) :
    endsRun fs config path =
      match (classifyFile fs config path).result with
      | .ok _ => false
      | .error failure => failure.isFatal := by
  unfold endsRun
  have hcourse := Turn.course_take config fs path
  generalize (Turn.take config fs path).1.result = result at hcourse ⊢
  generalize (Turn.take config fs path).2 = fs' at hcourse
  cases hcourse with
  | unclassified classified => simp [classified, isFatal]
  | noHandlers classified => simp [classified, isFatal]
  | planned classified => simp [classified, isFatal]
  | written _ _ real => simp [hdry] at real
  | uncreatable _ _ real => simp [hdry] at real
  | cutShort _ _ real => simp [hdry] at real
  | fullDevice _ _ real => simp [hdry] at real

/-- A source file that does not end the run has a `record?` unless it is too large. -/
lemma record?_of_not_endsRun (hdry : config.dryRun = true) (h : endsRun fs config path = false) :
    (record? fs config path).map Prod.fst =
      if isOversized fs config path then none else some path := by
  rw [endsRun_of_dryRun hdry] at h
  cases hfound : (classifyFile fs config path).result with
  | ok found =>
    cases hsize : isOversized fs config path with
    | false => simp [record?, hfound, Except.toOption]
    | true =>
      obtain ⟨size, hfailure⟩ := exists_classifyFile_of_isOversized hsize
      rw [hfound] at hfailure
      cases hfailure
  | error failure =>
    rw [hfound] at h
    obtain ⟨place, e, hstatus, hsize⟩ := exists_status_of_classifyFile hfound h
    simp [record?, hfound, isOversized, hstatus, hsize, Except.toOption]

/-- A source file that ends the run has no `record?`. -/
lemma record?_of_endsRun (hdry : config.dryRun = true) (h : endsRun fs config path = true) :
    record? fs config path = none := by
  rw [endsRun_of_dryRun hdry] at h
  cases hfound : (classifyFile fs config path).result with
  | ok found =>
    rw [hfound] at h
    cases h
  | error failure => simp [record?, hfound, Except.toOption]

/-- In a dry run `processFile` classifies the source file, and that is all. -/
lemma exists_processFile_of_dryRun (hdry : config.dryRun = true) {found : Classification}
    (h : (classifyFile fs config path).result = .ok found) :
    ∃ events, ∃ outcome : Outcome, outcome.found = found ∧
      processFile fs config path = ⟨events, .ok outcome, fs⟩ := by
  rw [processFile_of_ok h]
  by_cases hhandlers : found.handlers = []
  · rw [process_of_noHandlers hhandlers]
    exact ⟨_, .noHandlers found, rfl, rfl⟩
  · rw [process_of_dryRun hhandlers hdry]
    exact ⟨_, .planned (Path.companion config.outDir path) found, rfl, rfl⟩

/-- After a source file that ends the run there are no more records. -/
lemma records_cons_of_endsRun (h : endsRun fs config path = true) (paths : List Text) :
    records fs config (path :: paths) = [] := by
  rw [records, List.takeWhile_cons_of_neg (by simp [h]), List.filterMap_nil]

/-- The record of a source file that does not end the run comes before those of the others. -/
lemma records_cons_of_not_endsRun (h : endsRun fs config path = false) (paths : List Text) :
    records fs config (path :: paths) =
      (record? fs config path).toList ++ records fs config paths := by
  rw [records, List.takeWhile_cons_of_pos (by simp [h])]
  cases hrecord : record? fs config path <;> simp [hrecord, records]

/-- In a dry run a source file that has been classified has a record. -/
lemma records_cons_of_ok (hdry : config.dryRun = true) {found : Classification}
    (h : (classifyFile fs config path).result = .ok found) (paths : List Text) :
    records fs config (path :: paths) = (path, found) :: records fs config paths := by
  have hgoes : endsRun fs config path = false := by rw [endsRun_of_dryRun hdry, h]
  have hrecord : record? fs config path = some (path, found) := by
    rw [record?, h]
    rfl
  rw [records_cons_of_not_endsRun hgoes, hrecord]
  rfl

/-- In a dry run a source file that cannot be classified is passed over unless it ends the run. -/
lemma records_cons_of_error (hdry : config.dryRun = true) {failure : Failure}
    (h : (classifyFile fs config path).result = .error failure) (paths : List Text) :
    records fs config (path :: paths) =
      if failure.isFatal then [] else records fs config paths := by
  have hends : endsRun fs config path = failure.isFatal := by rw [endsRun_of_dryRun hdry, h]
  have hrecord : record? fs config path = none := by
    rw [record?, h]
    rfl
  cases hfatal : failure.isFatal with
  | true => rw [records_cons_of_endsRun (hends.trans hfatal), if_pos rfl]
  | false =>
    rw [records_cons_of_not_endsRun (hends.trans hfatal), hrecord, if_neg Bool.false_ne_true]
    rfl

/-- The inputs that have `records` are those in front of the first one that ends the run, without
those that are too large. -/
lemma map_fst_records (hdry : config.dryRun = true) (inputs : List Text) :
    (records fs config inputs).map Prod.fst =
      (inputs.takeWhile (!endsRun fs config ·)).filter (!isOversized fs config ·) := by
  rw [records, List.map_filterMap, ← List.filterMap_eq_filter]
  apply List.filterMap_congr
  intro p hp
  have hends : endsRun fs config p = false := by
    simpa using List.mem_takeWhile_imp hp
  rw [record?_of_not_endsRun hdry hends]
  cases hsize : isOversized fs config p <;> simp [Option.guard, hsize]

/-- A record `r` has what `classifyFile` finds in the source file `r.1`. -/
lemma classifyFile_of_mem_records {inputs : List Text} {r : Text × Classification}
    (h : r ∈ records fs config inputs) : (classifyFile fs config r.1).result = .ok r.2 := by
  obtain ⟨p, -, hp⟩ := List.mem_filterMap.mp h
  unfold record? at hp
  cases hfound : (classifyFile fs config p).result with
  | ok found =>
    rw [hfound] at hp
    cases hp
    exact hfound
  | error failure =>
    rw [hfound] at hp
    cases hp

end Generator

namespace Session

open Generator

variable {env : Environment} {display : Display} {config : Config}
  (hworks : env.outputWorks = true) (hjson : display.json = true) (hdry : config.dryRun = true)
include hworks hjson hdry

/-- With JSON `processPath` adds the record of the input to standard output, if it has one, and
nothing else. -/
lemma exists_processPath_json (path : Text) (s : Session) :
    ∃ s', processPath env display config path s = goesOn (endsRun s.fs config path) s' ∧
      s'.fs = s.fs ∧ s'.output = s.output ++ Record.stream (record? s.fs config path).toList := by
  unfold processPath
  cases hfound : (classifyFile s.fs config path).result with
  | ok found =>
    obtain ⟨events, outcome, houtcome, hprocessed⟩ := exists_processFile_of_dryRun hdry hfound
    simp only [hprocessed, recordOutcome, hjson, if_true, print, hworks, houtcome,
      endsRun_of_dryRun hdry, hfound]
    exact ⟨_, rfl, rfl, by simp [record?, hfound, Record.stream, Except.toOption, log, notify]⟩
  | error failure =>
    have hnone : Record.stream (record? s.fs config path).toList = [] := by
      simp [record?, hfound, Record.stream, Except.toOption]
    simp only [processFile_of_error hfound, endsRun_of_dryRun hdry, hfound, hnone,
      List.append_nil]
    cases failure.isFatal with
    | true => exact ⟨_, rfl, rfl, rfl⟩
    | false => exact ⟨_, rfl, rfl, rfl⟩

/-- With JSON `processPaths` adds the `records` of the inputs to standard output, and nothing else.
The induction is on the inputs; the file system stays the same. -/
lemma exists_processPaths_json (inputs : List Text) (s : Session) :
    ∃ ended s', processPaths env display config inputs s = goesOn ended s' ∧
      s'.output = s.output ++ Record.stream (records s.fs config inputs) := by
  induction inputs generalizing s with
  | nil => exact ⟨false, s, rfl, by simp [records, Record.stream]⟩
  | cons path paths ih =>
    obtain ⟨s₁, hs₁, hfs, houtput⟩ := exists_processPath_json hworks hjson hdry path s
    cases hends : endsRun s.fs config path with
    | true =>
      refine ⟨true, s₁, ?_, ?_⟩
      · rw [processPaths, hs₁, hends]
        rfl
      · rw [houtput, record?_of_endsRun hdry hends, records_cons_of_endsRun hends]
        rfl
    | false =>
      obtain ⟨ended, s₂, hs₂, houtput₂⟩ := ih s₁
      refine ⟨ended, s₂, ?_, ?_⟩
      · rw [processPaths, hs₁, hends]
        exact hs₂
      · rw [houtput₂, houtput, hfs, records_cons_of_not_endsRun hends, Record.stream,
          Record.stream, Record.stream, List.flatMap_append, List.append_assoc]

end Session

/-! ## Whole runs -/

/-- A run that writes records: standard output works, the arguments can be read and ask for JSON,
and the inputs can be determined. -/
structure RecordRun where
  env : Environment
  works : env.outputWorks = true
  arguments : List Text
  options : Options
  parsed : Options.parse arguments = .ok options
  json : options.json = true
  limit : Nat
  limited : Session.sizeLimit options = .ok limit
  fs : FileSystem
  inputs : List Text
  collected : (Inputs.collect fs options.paths options.excludes).result = .ok inputs

namespace RecordRun

variable (r : RecordRun)

/-- How files are processed in the run `r`. -/
def config : Config := r.options.config r.limit

/-- What is found in the inputs of the run `r`. -/
def records : List (Text × Classification) := Generator.records r.fs r.config r.inputs

/-- What the run `r` writes to standard output. -/
def output : Text := (Session.run r.env r.arguments r.fs).session.output

lemma dryRun_config : r.config.dryRun = true := by
  simp [config, Options.config, r.json]

/-- The run `r` writes the `stream` of its records, and nothing else. -/
lemma output_eq : r.output = Record.stream r.records := by
  have hjson : (r.options.display r.env).json = true := r.json
  obtain ⟨ended, s, hs, houtput⟩ := Session.exists_processPaths_json r.works hjson
    r.dryRun_config r.inputs (Session.collected r.options r.fs)
  have hclose : Session.close r.env (r.options.display r.env) = .ok := by
    funext s
    simp [Session.close, Options.display, r.json]
  have hrun : Session.runOptions r.env r.options (Session.start r.fs) =
      Session.goesOn ended s := by
    rw [Session.runOptions_eq r.limited r.collected, hclose]
    change (Session.processPaths _ _ r.config _ _).bind _ = _
    rw [hs]
    cases ended <;> rfl
  rw [output, Session.run_of_goesOn r.parsed hrun, houtput]
  rfl

/-- The output of a run decodes to its records. There is one for each input in front of the first
one that ends the run, unless the input is too large, and it has what is found in the input. The
lines of the output are the records, one line for each, and each is read as JSON to the path, the
package and the handlers with their route variables. Runs with different records have different
outputs. Whatever inputs a session goes on with, it prints their records and nothing else. -/
theorem output_decodes (r r' : RecordRun) :
    r.records.map Prod.fst =
        (r.inputs.takeWhile (!Generator.endsRun r.fs r.config ·)).filter
          (!Generator.isOversized r.fs r.config ·) ∧
      (∀ x ∈ r.records, (Generator.classifyFile r.fs r.config x.1).result = .ok x.2) ∧
      Text.lines r.output = r.records.map (fun x => Record.text x.1 x.2) ++ [[]] ∧
      (Text.lines r.output).dropLast.map Json.parse =
        r.records.map (fun x => some (x.2.toJson x.1)) ∧
      (r.records ≠ r'.records → r.output ≠ r'.output) ∧
      ∀ (inputs : List Text) (s : Session), ∃ ended s',
        Session.processPaths r.env (r.options.display r.env) r.config inputs s =
            Session.goesOn ended s' ∧
          s'.output = s.output ++ Record.stream (Generator.records s.fs r.config inputs) := by
  refine ⟨Generator.map_fst_records r.dryRun_config r.inputs, ?_, ?_, ?_, ?_, ?_⟩
  · intro x hx
    exact Generator.classifyFile_of_mem_records hx
  · rw [r.output_eq, Record.lines_stream]
  · rw [r.output_eq, Record.parse_lines_stream]
  · intro hne hsame
    rw [r.output_eq, r'.output_eq] at hsame
    exact hne (Record.stream_injective hsame)
  · intro inputs s
    exact Session.exists_processPaths_json r.works r.json r.dryRun_config inputs s

/-- A run on a source file with one handler. -/
def onOneHandler : RecordRun where
  env := .plain
  works := rfl
  arguments := [lit "--json", lit "x.go"]
  options := { Options.plain [lit "x.go"] with json := true }
  parsed := rfl
  json := rfl
  limit := Config.standardFileSize
  limited := rfl
  fs := FileSystem.withOneHandler [] [[lit "x.go"]]
  inputs := [lit "x.go"]
  collected := collect_source

lemma records_onOneHandler : onOneHandler.records = [(lit "x.go", oneHandlerFound)] :=
  Generator.records_cons_of_ok onOneHandler.dryRun_config (classifyFile_source rfl (by decide)) []

/-- The text of a source file with a handler that reads a route variable with a line feed for its
name. -/
def keyed : Text :=
  lit "package a;func F(x.ResponseWriter,r *http.Request)\x7bmux.Vars(r)[\"\\n\"]\x7d\n"

/-- What is found in `keyed`. -/
def keyedFound : Classification := ⟨lit "a", [⟨lit "F", [['\n']]⟩]⟩

/-- A file that is too large, the source file `keyed` under a name with quotation marks, a source
file without handlers, a file that does not hold text, and a source file with one handler. -/
def mixed : FileSystem where
  entries := [([lit "big.go"], .file (List.replicate 101 0x20)),
    ([lit "\"q\".go"], .file (Text.encode keyed)),
    ([lit "none.go"], .file (Text.encode (lit "package b\n"))), ([lit "bad.go"], .file [0xff]),
    ([lit "x.go"], .file (Text.encode oneHandler))]
  workingDirectory := []

/-- The names of the files in `mixed`. -/
def mixedInputs : List Text :=
  [lit "big.go", lit "\"q\".go", lit "none.go", lit "bad.go", lit "x.go"]

lemma collect_mixed : (Inputs.collect mixed mixedInputs []).result = .ok mixedInputs := by
  apply Inputs.collect_of_isFile
  intro p hp
  simp only [mixedInputs, List.mem_cons, List.not_mem_nil, or_false] at hp
  rcases hp with rfl | rfl | rfl | rfl | rfl <;> exact FileSystem.isFile_of_resolvePlainly? rfl

/-- A run on the files in `mixed`, which `bad.go` ends. -/
def onMixed : RecordRun where
  env := .plain
  works := rfl
  arguments := [lit "--json", lit "--max-file-size", lit "100"] ++ mixedInputs
  options := { Options.plain mixedInputs with json := true, maxFileSize := some (lit "100") }
  parsed := rfl
  json := rfl
  limit := 100
  limited := Session.sizeLimit_of_hundred rfl
  fs := mixed
  inputs := mixedInputs
  collected := collect_mixed

lemma records_onMixed : onMixed.records =
    [(lit "\"q\".go", keyedFound), (lit "none.go", ⟨lit "b", []⟩)] := by
  have hdry := onMixed.dryRun_config
  have hbig : (Generator.classifyFile onMixed.fs onMixed.config (lit "big.go")).result =
      .error (.tooLarge (lit "big.go") 101 100) := by
    have hstatus : onMixed.fs.status (lit "big.go") =
        .ok ([lit "big.go"], .file (List.replicate 101 0x20)) :=
      FileSystem.status_of_resolvePlainly? rfl
    exact Generator.result_classifyFile_of_tooLarge hstatus (by decide)
  have hkeyed : (Generator.classifyFile onMixed.fs onMixed.config (lit "\"q\".go")).result =
      .ok keyedFound := by
    have hstatus : onMixed.fs.status (lit "\"q\".go") =
        .ok ([lit "\"q\".go"], .file (Text.encode keyed)) :=
      FileSystem.status_of_resolvePlainly? rfl
    exact Generator.result_classifyFile_of_parse hstatus (by decide) (by decide +kernel)
  have hnone : (Generator.classifyFile onMixed.fs onMixed.config (lit "none.go")).result =
      .ok ⟨lit "b", []⟩ := by
    have hstatus : onMixed.fs.status (lit "none.go") =
        .ok ([lit "none.go"], .file (Text.encode (lit "package b\n"))) :=
      FileSystem.status_of_resolvePlainly? rfl
    exact Generator.result_classifyFile_of_parse hstatus (by decide) (by decide +kernel)
  have hbad : (Generator.classifyFile onMixed.fs onMixed.config (lit "bad.go")).result =
      .error (.read (lit "bad.go") .notText) := by
    have hstatus : onMixed.fs.status (lit "bad.go") = .ok ([lit "bad.go"], .file [0xff]) :=
      FileSystem.status_of_resolvePlainly? rfl
    exact Generator.result_classifyFile_of_not_text hstatus (by decide) (by decide +kernel)
  change Generator.records onMixed.fs onMixed.config mixedInputs = _
  rw [mixedInputs, Generator.records_cons_of_error hdry hbig]
  change Generator.records onMixed.fs onMixed.config [lit "\"q\".go", _, _, _] = _
  rw [Generator.records_cons_of_ok hdry hkeyed, Generator.records_cons_of_ok hdry hnone,
    Generator.records_cons_of_error hdry hbad]
  rfl

/-- The two lines of the run on `mixed` are read to what is found in the source files in front of
`bad.go`, and the run on one source file has a different output. -/
theorem output_decodes_onMixed :
    (Text.lines onMixed.output).dropLast.map Json.parse =
        [some (keyedFound.toJson (lit "\"q\".go")),
          some (Classification.toJson (lit "none.go") ⟨lit "b", []⟩)] ∧
      onMixed.output ≠ onOneHandler.output := by
  obtain ⟨-, -, -, hparsed, hdifferent, -⟩ := output_decodes onMixed onOneHandler
  refine ⟨?_, hdifferent ?_⟩
  · rw [hparsed, records_onMixed]
    rfl
  · rw [records_onMixed, records_onOneHandler]
    decide

end RecordRun

end RouteStubs
