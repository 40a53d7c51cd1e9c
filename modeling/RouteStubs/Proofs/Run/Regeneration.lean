import RouteStubs.Proofs.FileSystem.Rewriting
import RouteStubs.Proofs.Inputs.Walks
import RouteStubs.Proofs.Run.Sessions

/-!
# Running again

What is done with an input does not depend on the test files that have been written before: the
input is classified in the same way, and its test file is written to the same place or cannot be
written for the same reason. Each input thus decides once and for all what is printed, noted and
counted for it, and what it writes, and so do all inputs of a run together. Since a second run has
the same inputs, it does the same writes once more, and these change nothing.
-/

namespace RouteStubs

open FileSystem

/-! ## One input -/

namespace Generator

/-- What `classifyFile` finds in a source file depends on `fs.status path` only. -/
lemma classifyFile_congr {fs fs' : FileSystem} {path : Text} (h : fs'.status path = fs.status path)
    (config : Config) : classifyFile fs' config path = classifyFile fs config path := by
  simp only [classifyFile, readSource, FileSystem.readText, FileSystem.read, h]

/-- In all file systems `fs'` with `WithCompanions directory fs fs'`, the `step` is the same: it
notes the same events, comes to the same result and makes the same writes `ws`, after which the file
system is again one of these. -/
def Settled (directory : Text) (fs : FileSystem) (step : FileSystem → Attempt Outcome) : Prop :=
  ∃ events result ws, ∀ fs', WithCompanions directory fs fs' →
    step fs' = ⟨events, result, fs'.insertAll ws⟩ ∧
      WithCompanions directory fs (fs'.insertAll ws)

/-- A `step` that leaves the file system alone is `Settled` if it comes to the same result and notes
the same events in all file systems with test files. -/
lemma settled_of_forall_eq {directory : Text} {fs : FileSystem}
    {step : FileSystem → Attempt Outcome} {events : List Event}
    {result : Except Failure Outcome}
    (h : ∀ fs', WithCompanions directory fs fs' → step fs' = ⟨events, result, fs'⟩) :
    Settled directory fs step :=
  ⟨events, result, [], fun fs' hfs' => ⟨h fs' hfs', hfs'⟩⟩

section

variable (config : Config) {fs : FileSystem} (hfs : fs.LinkFree) (hroom : fs.Unlimited)
include hfs hroom

/-- Where files take whatever is written to them, `process` is settled. -/
lemma settled_process (path : Text) (found : Classification) :
    Settled config.outDir fs fun fs' => process fs' config path found := by
  by_cases hhandlers : found.handlers = []
  · exact settled_of_forall_eq fun fs' _ => process_of_noHandlers hhandlers
  · cases hdry : config.dryRun with
    | true => exact settled_of_forall_eq fun fs' _ => process_of_dryRun hhandlers hdry
    | false =>
      cases hplace : fs.destination? (Path.companion config.outDir path) with
      | some place =>
        let bytes := Text.encode (renderStub found path config.accessor)
        refine ⟨[.wrote (Path.companion config.outDir path) found.handlers.length],
          .ok (.written (Path.companion config.outDir path) found), [(place, .file bytes)], ?_⟩
        intro fs' h
        have hplace' := (h.destination?_eq (Path.companion config.outDir path)).trans hplace
        have hroom' : fs'.Unlimited := by
          intro entries q
          rw [h.room?_eq, hroom]
        refine ⟨?_, .write bytes h hplace'⟩
        change process fs' config path found = _
        rw [process_of_real hhandlers hdry,
          writeCompanion_of_takes hhandlers _ hplace' (hroom'.takes _ _)]
        rfl
      | none =>
        rcases create_of_destination?_eq_none hplace with ⟨cause, hcreate⟩ | ⟨place, hdevice⟩
        · have hstep (fs' : FileSystem) (h : WithCompanions config.outDir fs fs') :
              process fs' config path found =
                ⟨[], .error (.creation (Path.companion config.outDir path) cause), fs'⟩ := by
            rw [process_of_real hhandlers hdry,
              writeCompanion_of_error hhandlers _ (h.create_eq_error hfs hcreate)]
            rfl
          exact settled_of_forall_eq hstep
        · have hstep (fs' : FileSystem) (h : WithCompanions config.outDir fs fs') :
              process fs' config path found =
                ⟨[], .error (.render (Path.companion config.outDir path) .noSpace), fs'⟩ := by
            rw [process_of_real hhandlers hdry,
              writeCompanion_of_fullDevice hhandlers _ (h.resolve_fullDevice hdevice)]
            rfl
          exact settled_of_forall_eq hstep

/-- Where files take whatever is written to them, `processFile` is settled for a source file that is
no test file. -/
lemma settled_processFile {path : Text} (htest : Path.isTest path = false)
    (hstatus : ∃ found, fs.status path = .ok found) :
    Settled config.outDir fs fun fs' => processFile fs' config path := by
  obtain ⟨found, hstatus⟩ := hstatus
  have hsame (fs' : FileSystem) (h : WithCompanions config.outDir fs fs') :
      classifyFile fs' config path = classifyFile fs config path :=
    classifyFile_congr ((h.status_eq hfs hstatus (.inl htest)).trans hstatus.symm) config
  cases hfound : (classifyFile fs config path).result with
  | error failure =>
    have hstep (fs' : FileSystem) (h : WithCompanions config.outDir fs fs') :
        processFile fs' config path =
          ⟨(classifyFile fs config path).events, .error failure, fs'⟩ := by
      rw [processFile_of_error (by rw [hsame fs' h, hfound]), hsame fs' h]
    exact settled_of_forall_eq hstep
  | ok c =>
    obtain ⟨events, result, ws, hprocess⟩ := settled_process config hfs hroom path c
    refine ⟨(classifyFile fs config path).events ++
      .classified path c.package c.handlers.length :: events, result, ws,
      fun fs' h => ⟨?_, (hprocess fs' h).2⟩⟩
    have hstep : process fs' config path c = ⟨events, result, fs'.insertAll ws⟩ :=
      (hprocess fs' h).1
    change processFile fs' config path = _
    rw [processFile_of_ok (by rw [hsame fs' h, hfound]), hsame fs' h, hstep]

end

end Generator

/-! ## Turns -/

section

variable (config : Config) {fs : FileSystem} (hfs : fs.LinkFree) (hroom : fs.Unlimited)
include hfs hroom

/-- The turn of an input comes to the same `result` and makes the same writes `ws` in all `fs'` that
differ from `fs` by test files only. -/
lemma exists_take_eq {path : Text} (htest : Path.isTest path = false)
    (hstatus : ∃ found, fs.status path = .ok found) :
    ∃ result ws, ∀ fs', WithCompanions config.outDir fs fs' →
      Turn.take config fs' path = (⟨path, fs', result⟩, fs'.insertAll ws) ∧
        WithCompanions config.outDir fs (fs'.insertAll ws) := by
  obtain ⟨events, result, ws, hprocess⟩ :=
    Generator.settled_processFile config hfs hroom htest hstatus
  refine ⟨result, ws, fun fs' h => ⟨?_, (hprocess fs' h).2⟩⟩
  have hprocessed : Generator.processFile fs' config path =
      ⟨events, result, fs'.insertAll ws⟩ := (hprocess fs' h).1
  rw [Turn.take, hprocessed]

/-- The results of `turns` are the same in all `fs'` that differ from `fs` by test files only. -/
lemma exists_turns_eq (ends : Except Failure Outcome → Bool) {inputs : List Text}
    (hinputs : ∀ p ∈ inputs, Path.isTest p = false ∧ ∃ found, fs.status p = .ok found) :
    ∃ results, ∀ fs', WithCompanions config.outDir fs fs' →
      (turns ends config inputs fs').1.map (fun t => (t.path, t.result)) = results := by
  induction inputs with
  | nil => exact ⟨[], fun _ _ => rfl⟩
  | cons path paths ih =>
    obtain ⟨htest, hstatus⟩ := hinputs path List.mem_cons_self
    obtain ⟨result, ws, htake⟩ := exists_take_eq config hfs hroom htest hstatus
    obtain ⟨results, hresults⟩ := ih fun p hp => hinputs p (List.mem_cons_of_mem path hp)
    cases hends : ends result with
    | true =>
      refine ⟨[(path, result)], ?_⟩
      intro fs' h
      simp only [turns, (htake fs' h).1, hends, if_true]
      rfl
    | false =>
      refine ⟨(path, result) :: results, ?_⟩
      intro fs' h
      have hothers := hresults _ (htake fs' h).2
      simp only [turns, (htake fs' h).1, hends, Bool.false_eq_true, if_false, List.map_cons,
        hothers]

end

/-! ## Sessions -/

namespace Session

/-- The session `s` with the file system `fs` in place of its own. -/
def withFs (s : Session) (fs : FileSystem) : Session := { s with fs := fs }

/-- What becomes of a session, with the file system `fs` in place of its own. -/
def inFs (fs : FileSystem) : Except Session Session → Except Session Session
  | .ok s => .ok (s.withFs fs)
  | .error s => .error (s.withFs fs)

/-- Printing with `print` does not depend on the file system. -/
lemma print_withFs (env : Environment) (s : Session) (fs : FileSystem) (t : Text) :
    (s.withFs fs).print env t = inFs fs (s.print env t) := by
  unfold print
  split <;> rfl

/-- Taking up an outcome with `recordOutcome` does not depend on the file system. -/
lemma recordOutcome_withFs (env : Environment) (display : Display) (path : Text)
    (outcome : Outcome) (s : Session) (fs : FileSystem) :
    recordOutcome env display path outcome (s.withFs fs) =
      inFs fs (recordOutcome env display path outcome s) := by
  let scanned : Session :=
    { s with summary := s.summary.recordScanned outcome.found.handlers.length }
  let counted : Session := { scanned with summary := scanned.summary.addWritten 1 }
  unfold recordOutcome
  cases display.json with
  | true => exact print_withFs env scanned fs _
  | false =>
    cases outcome with
    | noHandlers found => rfl
    | written output found =>
      cases display.report with
      | true => exact print_withFs env counted fs _
      | false => rfl
    | planned output found =>
      cases display.report with
      | true => exact print_withFs env counted fs _
      | false => rfl

/-- Reporting the totals with `close` does not depend on the file system. -/
lemma close_withFs (env : Environment) (display : Display) (s : Session) (fs : FileSystem) :
    (s.withFs fs).close env display = inFs fs (s.close env display) := by
  unfold close
  split
  · exact print_withFs env s fs _
  · rfl

lemma inFs_bind_close (env : Environment) (display : Display) (r : Except Session Session)
    (fs : FileSystem) :
    (inFs fs r).bind (close env display) = inFs fs (r.bind (close env display)) := by
  cases r with
  | error s => rfl
  | ok s => exact close_withFs env display s fs

section

variable (config : Config) {fs : FileSystem} (hfs : fs.LinkFree) (hroom : fs.Unlimited)
include hfs hroom

/-- What `processPath` makes of a session is the same in all `fs'` that differ from `fs` by test
files only, up to the writes `ws`. -/
lemma exists_processPath_withFs (env : Environment) (display : Display) {path : Text}
    (htest : Path.isTest path = false) (hstatus : ∃ found, fs.status path = .ok found)
    (s : Session) :
    ∃ r ws, ∀ fs', WithCompanions config.outDir fs fs' →
      processPath env display config path (s.withFs fs') = inFs (fs'.insertAll ws) r ∧
        WithCompanions config.outDir fs (fs'.insertAll ws) := by
  obtain ⟨events, result, ws, hprocess⟩ :=
    Generator.settled_processFile config hfs hroom htest hstatus
  have hprocessed (fs' : FileSystem) (h : WithCompanions config.outDir fs fs') :
      Generator.processFile (s.withFs fs').fs config path =
        ⟨events, result, fs'.insertAll ws⟩ := (hprocess fs' h).1
  cases result with
  | error failure =>
    refine ⟨if failure.isFatal then .error ((s.log events).notify [.failure failure])
      else .ok ((s.log events).recordSkipped path failure), ws, ?_⟩
    intro fs' h
    refine ⟨?_, (hprocess fs' h).2⟩
    unfold processPath
    rw [hprocessed fs' h]
    cases failure <;> rfl
  | ok outcome =>
    refine ⟨recordOutcome env display path outcome (s.log events), ws, ?_⟩
    intro fs' h
    refine ⟨?_, (hprocess fs' h).2⟩
    unfold processPath
    rw [hprocessed fs' h]
    exact recordOutcome_withFs env display path outcome (s.log events) (fs'.insertAll ws)

/-- What `processPaths` makes of a session is the same in all `fs'` that differ from `fs` by test
files only. The writes of the first input are in front of those of the others. -/
lemma exists_processPaths_withFs (env : Environment) (display : Display) {inputs : List Text}
    (hinputs : ∀ p ∈ inputs, Path.isTest p = false ∧ ∃ found, fs.status p = .ok found)
    (s : Session) :
    ∃ r ws, ∀ fs', WithCompanions config.outDir fs fs' →
      processPaths env display config inputs (s.withFs fs') = inFs (fs'.insertAll ws) r ∧
        WithCompanions config.outDir fs (fs'.insertAll ws) := by
  induction inputs generalizing s with
  | nil => exact ⟨.ok s, [], fun fs' h => ⟨rfl, h⟩⟩
  | cons path paths ih =>
    obtain ⟨htest, hstatus⟩ := hinputs path List.mem_cons_self
    obtain ⟨r, ws, hfirst⟩ :=
      exists_processPath_withFs config hfs hroom env display htest hstatus s
    cases r with
    | error s₁ =>
      refine ⟨.error s₁, ws, ?_⟩
      intro fs' h
      refine ⟨?_, (hfirst fs' h).2⟩
      rw [processPaths, (hfirst fs' h).1]
      rfl
    | ok s₁ =>
      obtain ⟨r, ws', hothers⟩ := ih (fun p hp => hinputs p (List.mem_cons_of_mem path hp)) s₁
      refine ⟨r, ws ++ ws', ?_⟩
      intro fs' h
      obtain ⟨hpath, hwith⟩ := hfirst fs' h
      rw [processPaths, hpath, insertAll_append]
      exact hothers _ hwith

end

/-! ## Whole runs -/

/-- What `runOptions` comes to is the same in all `fs'` that differ from `fs` by test files only:
the inputs are the same, and so are the writes `ws`. -/
lemma exists_runOptions_withFs (env : Environment) (options : Options) {fs : FileSystem}
    (hfs : fs.LinkFree) (hroom : fs.Unlimited)
    (hpaths : ∀ p ∈ options.paths, Inputs.IsProper fs p) :
    ∃ r ws, ∀ fs', WithCompanions options.outDir fs fs' →
      runOptions env options (start fs') = inFs (fs'.insertAll ws) r ∧
        WithCompanions options.outDir fs (fs'.insertAll ws) := by
  have hcollect (fs' : FileSystem) (h : WithCompanions options.outDir fs fs') :
      Inputs.collect (start fs').fs options.paths options.excludes =
        Inputs.collect fs options.paths options.excludes :=
    h.collect_eq hfs hpaths options.excludes
  cases hlimit : sizeLimit options with
  | error notice =>
    refine ⟨.error ((start fs).notify [notice]), [], fun fs' h => ⟨?_, h⟩⟩
    unfold runOptions
    rw [hlimit]
    rfl
  | ok limit =>
    cases hinputs : (Inputs.collect fs options.paths options.excludes).result with
    | error failure =>
      refine ⟨.error ((collected options fs).notify [.failure failure]), [],
        fun fs' h => ⟨?_, h⟩⟩
      unfold runOptions
      rw [hlimit]
      simp only [hcollect fs' h, hinputs]
      rfl
    | ok inputs =>
      obtain ⟨r, ws, hprocess⟩ := exists_processPaths_withFs (options.config limit) hfs hroom env
        (options.display env) (Inputs.forall_mem_collect hpaths hinputs) (collected options fs)
      refine ⟨r.bind (close env (options.display env)), ws, fun fs' h => ⟨?_, (hprocess fs' h).2⟩⟩
      have hstart : collected options fs' = (collected options fs).withFs fs' := by
        unfold collected
        rw [h.collect_eq hfs hpaths]
        rfl
      have hinputs' : (Inputs.collect fs' options.paths options.excludes).result = .ok inputs := by
        rw [h.collect_eq hfs hpaths, hinputs]
      rw [runOptions_eq hlimit hinputs', hstart, (hprocess fs' h).1, inFs_bind_close]

/-- Running again is a fixpoint. If there are no links, if files take whatever is written to them,
and if every argument leads to a directory or to something that is there and is not a test file,
then the arguments stand for the same inputs after a run as before it, the same becomes of each of
them in a second run, and the second run ends as the first one has ended: with the same file system,
output, notices, totals and exit status. -/
theorem run_again {env : Environment} {arguments : List Text} {options : Options}
    {fs : FileSystem} (hoptions : Options.parse arguments = .ok options) (hfs : fs.LinkFree)
    (hroom : fs.Unlimited) (hpaths : ∀ p ∈ options.paths, Inputs.IsProper fs p) :
    let first := run env arguments fs
    Inputs.collect first.session.fs options.paths options.excludes =
        Inputs.collect fs options.paths options.excludes ∧
      (∀ limit inputs, sizeLimit options = .ok limit →
        (Inputs.collect fs options.paths options.excludes).result = .ok inputs →
        (turns (ends env (options.display env)) (options.config limit) inputs
            first.session.fs).1.map (fun t => (t.path, t.result)) =
          (turns (ends env (options.display env)) (options.config limit) inputs fs).1.map
            (fun t => (t.path, t.result))) ∧
      run env arguments first.session.fs = first := by
  intro first
  obtain ⟨r, ws, hrun⟩ := exists_runOptions_withFs env options hfs hroom hpaths
  obtain ⟨hfirst, hwith⟩ := hrun fs .refl
  have hlast : first.session.fs = fs.insertAll ws := by
    change (run env arguments fs).session.fs = _
    simp only [run, hoptions, hfirst]
    cases r <;> rfl
  rw [hlast]
  refine ⟨hwith.collect_eq hfs hpaths options.excludes, ?_, ?_⟩
  · intro limit inputs _ hinputs
    obtain ⟨results, hresults⟩ := exists_turns_eq (options.config limit) hfs hroom
      (ends env (options.display env)) (Inputs.forall_mem_collect hpaths hinputs)
    rw [hresults _ hwith, hresults fs .refl]
  · -- The second run makes the writes of the first one once more.
    have hsecond := (hrun _ hwith).1
    rw [insertAll_insertAll, ← hfirst] at hsecond
    change run env arguments (fs.insertAll ws) = run env arguments fs
    simp only [run, hoptions, hsecond]

/-- A run on a directory, which is also where test files are written, and on a file in it. -/
theorem run_again_inside :
    let fs := FileSystem.withOneHandler [] [[lit "x.go"]]
    let arguments := [lit ".", lit "x.go"]
    let first := run .plain arguments fs
    fs.LinkFree ∧ fs.Unlimited ∧ (∀ p ∈ arguments, Inputs.IsProper fs p) ∧
      run .plain arguments first.session.fs = first := by
  intro fs arguments first
  have hfs : fs.LinkFree := by
    apply linkFree_of_entries
    simp [fs, withOneHandler]
  have hroom : fs.Unlimited := fun _ _ => rfl
  have hdirectory : fs.status (lit ".") = .ok ([], .directory) :=
    status_of_resolvePlainly? rfl
  have hfile : fs.status (lit "x.go") = .ok ([lit "x.go"], .file (Text.encode oneHandler)) :=
    status_of_resolvePlainly? resolvePlainly?_source
  have hpaths : ∀ p ∈ arguments, Inputs.IsProper fs p := by
    simp only [arguments, List.forall_mem_cons]
    refine ⟨.inl ?_, .inr ⟨?_, by decide⟩, List.forall_mem_nil _⟩
    · rw [isDirectory, hdirectory]
    · rw [present, hfile]
      rfl
  have hoptions : Options.parse arguments = .ok (.plain arguments) := rfl
  obtain ⟨-, -, hagain⟩ := run_again hoptions hfs hroom hpaths
  exact ⟨hfs, hroom, hpaths, hagain⟩

end Session

end RouteStubs
