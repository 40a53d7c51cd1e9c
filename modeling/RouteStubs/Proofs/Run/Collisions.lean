import Mathlib.Data.List.Nodup
import RouteStubs.Proofs.Run.Sessions

/-!
# Test files that collide

A test file is named for the last name of its source file alone, so that source files of the same
name in different directories are given the same test file, and the last one wins. The count of
written files does not show it. Nothing is lost exactly if test files that are written to the same
place have the same content.
-/

namespace RouteStubs

namespace FileSystem

/-- A path that leads to the `place` of a file reads the `content` of the file. -/
lemma read_of_destination? {fs : FileSystem} {p : Text} {place : Place} {content : List UInt8}
    (h : fs.destination? p = some place) (hentry : fs.entry? place = some (.file content)) :
    fs.read p = .ok content := by
  rcases destination?_eq_some_iff.mp h with hvacant | ⟨old, hold⟩
  · have hnone : fs.entry? place = none := stands_of_resolve hvacant
    simp [hnone] at hentry
  · have hfile : fs.entry? place = some (.file old) := stands_of_resolve hold
    obtain rfl : old = content := by simpa [hfile] using hentry
    simp [read, status, hold]

end FileSystem

namespace Turn

/-- The input of the turn `t` has handlers, and `content` is its test file. -/
def Renders (config : Config) (t : Turn) (content : List UInt8) : Prop :=
  ∃ found, (Generator.classifyFile t.fs config t.path).result = .ok found ∧
    found.handlers ≠ [] ∧
    content = Text.encode (Generator.renderStub found t.path config.accessor)

/-- A turn that is no failure writes the `content` of the test file of its input, if it has one, to
the `place` where the test file goes. -/
lemma exists_take_eq_insert {config : Config} (hdry : config.dryRun = false) {fs : FileSystem}
    {path : Text} (hok : (take config fs path).1.result.toBool = true) {content : List UInt8}
    (hrenders : (take config fs path).1.Renders config content) :
    ∃ place, fs.destination? (Path.companion config.outDir path) = some place ∧
      (take config fs path).2 = fs.insert place (.file content) := by
  obtain ⟨found, hfound, hhandlers, rfl⟩ := hrenders
  rw [fs_take, path_take] at hfound
  rw [path_take]
  have hcourse := course_take config fs path
  generalize (take config fs path).1.result = result at hok hcourse
  generalize (take config fs path).2 = fs' at hcourse ⊢
  cases hcourse with
  | unclassified => simp [Except.toBool] at hok
  | noHandlers classified handlers =>
    obtain rfl := Except.ok.inj (hfound.symm.trans classified)
    exact absurd handlers hhandlers
  | planned _ _ dry => simp [hdry] at dry
  | written classified _ _ destination =>
    obtain rfl := Except.ok.inj (hfound.symm.trans classified)
    exact ⟨_, destination, rfl⟩
  | uncreatable => simp [Except.toBool] at hok
  | cutShort => simp [Except.toBool] at hok
  | fullDevice => simp [Except.toBool] at hok

/-- A turn whose test file, if there is one, does not go to `place` leaves alone what stands there.
-/
lemma entry?_take {config : Config} {fs : FileSystem} {path : Text} {place : Place}
    (h : ∀ content, (take config fs path).1.Renders config content →
      fs.destination? (Path.companion config.outDir path) ≠ some place) :
    FileSystem.entry? (take config fs path).2 place = fs.entry? place := by
  rcases take_eq_or_insert config fs path with
    hsame | ⟨found, q, n, hfound, hhandlers, -, hq, hinsert⟩
  · rw [hsame]
  · have hne := h _ ⟨found, by rwa [fs_take, path_take], hhandlers, rfl⟩
    rw [hq] at hne
    rw [hinsert, FileSystem.entry?_insert fs (FileSystem.replaceable_of_destination? hq).ne_nil,
      if_neg fun heq => hne (congrArg some heq.symm)]

end Turn

/-! ## All turns -/

/-- The turns of all `paths`, whatever their results: those that `turns` gives if nothing ends the
run. -/
def allTurns (config : Config) (paths : List Text) (fs : FileSystem) : List Turn × FileSystem :=
  turns (fun _ => false) config paths fs

lemma allTurns_cons (config : Config) (path : Text) (paths : List Text) (fs : FileSystem) :
    allTurns config (path :: paths) fs =
      ((Turn.take config fs path).1 :: (allTurns config paths (Turn.take config fs path).2).1,
        (allTurns config paths (Turn.take config fs path).2).2) :=
  turns_cons_of_not_ends rfl

/-- If no turn `ends` the run, then every input has its turn. -/
lemma turns_eq_allTurns {ends : Except Failure Outcome → Bool} {config : Config}
    {paths : List Text} {fs : FileSystem}
    (h : ((turns ends config paths fs).1.any fun t => ends t.result) = false) :
    turns ends config paths fs = allTurns config paths fs := by
  induction paths generalizing fs with
  | nil => rfl
  | cons path paths ih =>
    cases hends : ends (Turn.take config fs path).1.result with
    | true => simp [turns_cons_of_ends hends, hends] at h
    | false =>
      rw [turns_cons_of_not_ends hends, List.any_cons, hends, Bool.false_or] at h
      rw [turns_cons_of_not_ends hends, allTurns_cons, ih h]

/-- Every input has its turn, in order. -/
lemma map_path_allTurns (config : Config) (paths : List Text) (fs : FileSystem) :
    (allTurns config paths fs).1.map Turn.path = paths := by
  induction paths generalizing fs with
  | nil => rfl
  | cons path paths ih => rw [allTurns_cons, List.map_cons, Turn.path_take, ih]

/-- Turns do not change `destination?`, so test files go to the places where they would have gone
before. -/
lemma destination?_allTurns (config : Config) (paths : List Text) (fs : FileSystem) (p : Text) :
    (allTurns config paths fs).2.destination? p = fs.destination? p := by
  induction paths generalizing fs with
  | nil => rfl
  | cons path paths ih => rw [allTurns_cons, ih, Turn.destination?_take]

/-- A `place` to which no test file goes is left alone by `allTurns`. -/
lemma entry?_allTurns {config : Config} {paths : List Text} {fs : FileSystem} {place : Place}
    (h : ∀ t ∈ (allTurns config paths fs).1, ∀ content, t.Renders config content →
      fs.destination? (Path.companion config.outDir t.path) ≠ some place) :
    FileSystem.entry? (allTurns config paths fs).2 place = fs.entry? place := by
  induction paths generalizing fs with
  | nil => rfl
  | cons path paths ih =>
    rw [allTurns_cons] at h ⊢
    rw [ih, Turn.entry?_take]
    · intro content hrenders
      simpa using h _ List.mem_cons_self content hrenders
    · intro t ht content hrenders
      rw [Turn.destination?_take]
      exact h t (List.mem_cons_of_mem _ ht) content hrenders

/-- At the place where the test file of the turn `t` has been written stands the test file of a turn
`t'`, the last one that goes there. The induction is on `paths`: either a later turn writes to the
place again, or this one is the last that does. -/
lemma exists_last_write {config : Config} (hdry : config.dryRun = false) {paths : List Text}
    {fs : FileSystem} (hok : ∀ t ∈ (allTurns config paths fs).1, t.result.toBool = true)
    {t : Turn} (ht : t ∈ (allTurns config paths fs).1) {content : List UInt8}
    (hrenders : t.Renders config content) :
    ∃ place, fs.destination? (Path.companion config.outDir t.path) = some place ∧
      ∃ t' ∈ (allTurns config paths fs).1, ∃ content', t'.Renders config content' ∧
        fs.destination? (Path.companion config.outDir t'.path) = some place ∧
        FileSystem.entry? (allTurns config paths fs).2 place = some (.file content') := by
  induction paths generalizing fs t content with
  | nil => cases ht
  | cons path paths ih =>
    rw [allTurns_cons] at hok ht ⊢
    have hlater := @ih (Turn.take config fs path).2
      fun t ht => hok t (List.mem_cons_of_mem _ ht)
    simp only [Turn.destination?_take] at hlater
    rcases List.mem_cons.mp ht with rfl | ht
    · obtain ⟨place, hplace, hwritten⟩ :=
        Turn.exists_take_eq_insert hdry (hok _ List.mem_cons_self) hrenders
      refine ⟨place, by simpa using hplace, ?_⟩
      by_cases hagain : ∃ t ∈ (allTurns config paths (Turn.take config fs path).2).1, ∃ content,
          t.Renders config content ∧
            fs.destination? (Path.companion config.outDir t.path) = some place
      · obtain ⟨t, ht, content, hrenders, hsame⟩ := hagain
        obtain ⟨place', hplace', t', ht', hlast⟩ := hlater ht hrenders
        obtain rfl : place' = place := by simpa [hsame] using hplace'.symm
        exact ⟨t', List.mem_cons_of_mem _ ht', hlast⟩
      · refine ⟨_, List.mem_cons_self, content, hrenders, by simpa using hplace, ?_⟩
        rw [entry?_allTurns, hwritten, FileSystem.entry?_insert fs
          (FileSystem.replaceable_of_destination? hplace).ne_nil, if_pos rfl]
        intro t ht content hrenders hsame
        rw [Turn.destination?_take] at hsame
        exact hagain ⟨t, ht, content, hrenders, hsame⟩
    · obtain ⟨place, hplace, t', ht', hlast⟩ := hlater ht hrenders
      exact ⟨place, hplace, t', List.mem_cons_of_mem _ ht', hlast⟩

/-! ## Whole runs -/

/-- A run that skips no file and does not end early has the turns `allTurns`, and none of them is a
failure. -/
lemma Session.allTurns_of_run {env : Environment} {arguments : List Text} {options : Options}
    {fs : FileSystem} {limit : Nat} {inputs : List Text}
    (hoptions : Options.parse arguments = .ok options)
    (hlimit : sizeLimit options = .ok limit)
    (hinputs : (Inputs.collect fs options.paths options.excludes).result = .ok inputs)
    (hstatus : (run env arguments fs).status = 0)
    (hskipped : (run env arguments fs).session.summary.skipped = 0) :
    (run env arguments fs).session.fs = (allTurns (options.config limit) inputs fs).2 ∧
      ∀ t ∈ (allTurns (options.config limit) inputs fs).1, t.result.toBool = true := by
  obtain ⟨s, hs, hfs, hsummary⟩ := exists_processPaths env (options.display env)
    (options.config limit) inputs (collected options fs)
  rw [fs_collected] at hs hfs hsummary
  cases hends : (turns (ends env (options.display env)) (options.config limit) inputs fs).1.any
      fun t => ends env (options.display env) t.result with
  | true =>
    rw [hends] at hs
    rw [run_of_error hlimit hinputs hoptions hs] at hstatus
    cases hstatus
  | false =>
    rw [hends] at hs
    obtain ⟨s', hfs', hsummary', hrun⟩ := exists_run_of_ok hlimit hinputs hoptions hs
    have hall := turns_eq_allTurns hends
    rw [hall] at hfs hsummary hends
    refine ⟨by rw [hrun, hfs', hfs], fun t ht => ?_⟩
    have hzero : ((collected options fs).summary.recordAll (options.display env).json
        (allTurns (options.config limit) inputs fs).1).skipped = 0 := by
      rw [← hsummary, ← hsummary']
      rwa [hrun] at hskipped
    have hlasts : ends env (options.display env) t.result = false := by
      simpa using List.any_eq_false.mp hends t ht
    cases hresult : t.result with
    | ok outcome => rfl
    | error failure =>
      rw [Summary.skipped_recordAll, Nat.add_eq_zero_iff, List.countP_eq_zero] at hzero
      have hcounted := hzero.2 t ht
      rw [hresult] at hlasts hcounted
      simp [ends] at hlasts
      simp [isSkip, hlasts] at hcounted

/-- Distinct inputs whose test files have distinct places do not write to the same place. -/
lemma content_eq_of_destination?_eq {config : Config} {inputs : List Text} {fs : FileSystem}
    (hnodup : inputs.Nodup)
    (hdistinct : ∀ p ∈ inputs, ∀ q ∈ inputs, fs.destination? (Path.companion config.outDir p) =
      fs.destination? (Path.companion config.outDir q) → p = q)
    {t t' : Turn} (ht : t ∈ (allTurns config inputs fs).1)
    (ht' : t' ∈ (allTurns config inputs fs).1) {content content' : List UInt8}
    (hc : t.Renders config content) (hc' : t'.Renders config content')
    (h : fs.destination? (Path.companion config.outDir t.path) =
      fs.destination? (Path.companion config.outDir t'.path)) : content = content' := by
  have hpaths := map_path_allTurns config inputs fs
  have hmem {t : Turn} (ht : t ∈ (allTurns config inputs fs).1) : t.path ∈ inputs :=
    hpaths ▸ List.mem_map_of_mem ht
  have hpath : t.path = t'.path := hdistinct _ (hmem ht) _ (hmem ht') h
  have hnodup' : ((allTurns config inputs fs).1.map Turn.path).Nodup := by rwa [hpaths]
  obtain rfl : t = t' := List.inj_on_of_nodup_map hnodup' ht ht' hpath
  obtain ⟨found, hfound, -, rfl⟩ := hc
  obtain ⟨found', hfound', -, rfl⟩ := hc'
  obtain rfl := Except.ok.inj (hfound.symm.trans hfound')
  rfl

/-! ## Two source files -/

section

variable {fs : FileSystem} {p q : Text} {source source' place place' : Place}
  (hoptions : Options.parse [p, q] = .ok (.plain [p, q])) (hroom : fs.Unlimited)
  (hp : fs.resolvePlainly? p = some (.occupied source (.file (Text.encode oneHandler))))
  (hq : fs.resolvePlainly? q = some (.occupied source' (.file (Text.encode oneHandler))))
  (hplace : fs.destination? (Path.companion (lit ".") p) = some place)
  (hplace' : fs.destination? (Path.companion (lit ".") q) = some place') (hne : source' ≠ place)
include hp hq

/-- The inputs of a run on the source files `p` and `q`. -/
lemma collect_two : (Inputs.collect fs [p, q] []).result = .ok [p, q] := by
  apply Inputs.collect_of_isFile
  intro path hpath
  rcases (by simpa using hpath : path = p ∨ path = q) with rfl | rfl
  · exact FileSystem.isFile_of_resolvePlainly? hp
  · exact FileSystem.isFile_of_resolvePlainly? hq

include hoptions hroom hplace hplace' hne

/-- A run on the source files `p` and `q` with the same handler writes two test files, one after the
other. -/
lemma run_two :
    (Session.run .plain [p, q] fs).status = 0 ∧
      (Session.run .plain [p, q] fs).session.summary = ⟨2, 2, 2, 0⟩ ∧
      (Session.run .plain [p, q] fs).session.fs =
        (fs.insert place (.file (Text.encode
          (Generator.renderStub oneHandlerFound p .standard)))).insert place'
            (.file (Text.encode (Generator.renderStub oneHandlerFound q .standard))) := by
  let config := (Options.plain [p, q]).config Config.standardFileSize
  have hsize : (Text.encode oneHandler).length ≤ config.maxFileSize :=
    show (Text.encode oneHandler).length ≤ Config.standardFileSize by decide
  have hreplaceable := FileSystem.replaceable_of_destination? hplace
  -- The first turn leaves the second source file alone.
  have hstatus (content : List UInt8) : (fs.insert place (.file content)).status q =
      .ok (source', .file (Text.encode oneHandler)) := by
    have hother : fs.destination? q ≠ some place := by
      rw [FileSystem.destination?, FileSystem.resolve_of_resolvePlainly? hq]
      exact fun h => hne (Option.some.inj h)
    have hbefore := FileSystem.status_of_resolvePlainly? hq
    rcases FileSystem.status_eq_or_error
      (FileSystem.status_insert_of_ne hreplaceable hother content) with hsame | ⟨_, _, hfails, -⟩
    · rw [hsame, hbefore]
    · rw [hfails] at hbefore
      cases hbefore
  have hfound : (Generator.classifyFile fs config p).result = .ok oneHandlerFound :=
    result_classifyFile_oneHandler rfl hsize (FileSystem.status_of_resolvePlainly? hp)
  have hfound' (content : List UInt8) :
      (Generator.classifyFile (fs.insert place (.file content)) config q).result =
        .ok oneHandlerFound :=
    result_classifyFile_oneHandler rfl hsize (hstatus content)
  have hfirst := Turn.take_written hfound handlers_oneHandlerFound rfl hplace (hroom.takes _ _)
  have hsecond (content : List UInt8) := Turn.take_written (hfound' content)
    handlers_oneHandlerFound rfl
    ((FileSystem.destination?_insert hreplaceable content _).trans hplace')
    ((hroom.insert place (.file content)).takes _ _)
  have hends := Session.ends_eq_isFatal (rfl : Environment.plain.outputWorks = true)
  obtain ⟨s, hs, hfs, hsummary⟩ := Session.exists_processPaths .plain
    ((Options.plain [p, q]).display .plain) config [p, q] (Session.collected (.plain [p, q]) fs)
  simp only [hends, Session.fs_collected, turns, hfirst, hsecond] at hs hfs hsummary
  obtain ⟨s', hfs', hsummary', hrun⟩ :=
    Session.exists_run_of_ok rfl (collect_two hp hq) hoptions hs
  rw [hrun, hfs', hfs, hsummary', hsummary]
  exact ⟨rfl, rfl, rfl⟩

end

/-! ## What is kept -/

/-- In a run that skips no file, every input with handlers keeps its test file exactly if test files
that go to the same place, as `destination?` says, have the same content. -/
theorem companions_kept_iff {env : Environment} {arguments : List Text} {options : Options}
    {fs : FileSystem} {limit : Nat} {inputs : List Text}
    (hoptions : Options.parse arguments = .ok options)
    (hdry : options.dryRun = false) (hjson : options.json = false)
    (hlimit : Session.sizeLimit options = .ok limit)
    (hinputs : (Inputs.collect fs options.paths options.excludes).result = .ok inputs)
    (hstatus : (Session.run env arguments fs).status = 0)
    (hskipped : (Session.run env arguments fs).session.summary.skipped = 0) :
    let config := options.config limit
    let ts := (allTurns config inputs fs).1
    ts.map Turn.path = inputs ∧
      ((∀ t ∈ ts, ∀ content, t.Renders config content →
          (Session.run env arguments fs).session.fs.read (Path.companion config.outDir t.path) =
            .ok content) ↔
        ∀ t ∈ ts, ∀ t' ∈ ts, ∀ content content',
          t.Renders config content → t'.Renders config content' →
          fs.destination? (Path.companion config.outDir t.path) =
            fs.destination? (Path.companion config.outDir t'.path) → content = content') := by
  intro config ts
  obtain ⟨hfs, hok⟩ := Session.allTurns_of_run hoptions hlimit hinputs hstatus hskipped
  have hreal : config.dryRun = false := by simp [config, Options.config, hdry, hjson]
  have hdestination (p : Text) := destination?_allTurns config inputs fs p
  rw [hfs]
  refine ⟨map_path_allTurns config inputs fs, ?_, ?_⟩
  · intro hkept t ht t' ht' content content' hc hc' hsame
    -- Both read what stands at their common place.
    obtain ⟨place, hplace, _, _, last, _, _, hentry⟩ := exists_last_write hreal hok ht hc
    have hread (p : Text) (hp : fs.destination? p = some place) :=
      FileSystem.read_of_destination? ((hdestination p).trans hp) hentry
    have hcontent := (hkept t ht content hc).symm.trans (hread _ hplace)
    have hcontent' := (hkept t' ht' content' hc').symm.trans (hread _ (hsame ▸ hplace))
    exact Except.ok.inj (hcontent.trans hcontent'.symm)
  · intro hequal t ht content hrenders
    obtain ⟨place, hplace, t', ht', last, hlast, hplace', hentry⟩ :=
      exists_last_write hreal hok ht hrenders
    rw [hequal t ht t' ht' content last hrenders hlast (hplace.trans hplace'.symm)]
    exact FileSystem.read_of_destination? ((hdestination _).trans hplace) hentry

/-- Source files of different names keep their test files. -/
theorem companions_kept_of_two_names :
    let fs := FileSystem.withOneHandler [] [[lit "x.go"], [lit "y.go"]]
    let inputs := [lit "x.go", lit "y.go"]
    let config := (Options.plain inputs).config Config.standardFileSize
    let ending := Session.run .plain inputs fs
    ending.status = 0 ∧ ending.session.summary = ⟨2, 2, 2, 0⟩ ∧
      ∀ t ∈ (allTurns config inputs fs).1, ∀ content, t.Renders config content →
        ending.session.fs.read (Path.companion (lit ".") t.path) = .ok content := by
  intro fs inputs config ending
  have hoptions : Options.parse inputs = .ok (.plain inputs) := rfl
  have hx : fs.resolvePlainly? (lit "x.go") =
      some (.occupied [lit "x.go"] (.file (Text.encode oneHandler))) := rfl
  have hy : fs.resolvePlainly? (lit "y.go") =
      some (.occupied [lit "y.go"] (.file (Text.encode oneHandler))) := rfl
  have hplace : fs.destination? (Path.companion (lit ".") (lit "x.go")) = some [lit "x_test.go"] :=
    FileSystem.destination?_of_resolvePlainly? rfl
  have hplace' : fs.destination? (Path.companion (lit ".") (lit "y.go")) = some [lit "y_test.go"] :=
    FileSystem.destination?_of_resolvePlainly? rfl
  obtain ⟨hstatus, hsummary, -⟩ :=
    run_two hoptions (fun _ _ => rfl) hx hy hplace hplace' (by decide)
  have hskipped : (Session.run .plain inputs fs).session.summary.skipped = 0 := by rw [hsummary]
  refine ⟨hstatus, hsummary, (companions_kept_iff hoptions rfl rfl rfl (collect_two hx hy) hstatus
    hskipped).2.mpr fun t ht t' ht' _ _ hc hc' => ?_⟩
  refine content_eq_of_destination?_eq (by decide) ?_ ht ht' hc hc'
  change ∀ p ∈ inputs, ∀ q ∈ inputs, fs.destination? (Path.companion (lit ".") p) =
    fs.destination? (Path.companion (lit ".") q) → p = q
  have hne : [lit "x_test.go"] ≠ [lit "y_test.go"] := by decide
  simp [inputs, hplace, hplace', hne, hne.symm]

/-- Of `a/x.go` and `b/x.go` the first loses its test file to the second, although the run counts
two of them. -/
theorem same_name_loses_companion :
    let fs := FileSystem.withOneHandler [[lit "a"], [lit "b"]]
      [[lit "a", lit "x.go"], [lit "b", lit "x.go"]]
    let inputs := [lit "a/x.go", lit "b/x.go"]
    let config := (Options.plain inputs).config Config.standardFileSize
    let ending := Session.run .plain inputs fs
    Options.parse inputs = .ok (.plain inputs) ∧
      (Inputs.collect fs inputs []).result = .ok inputs ∧
      (Generator.classifyFile fs config (lit "a/x.go")).result = .ok oneHandlerFound ∧
      ending.status = 0 ∧ ending.session.summary = ⟨2, 2, 2, 0⟩ ∧
      ending.session.fs.read (Path.companion (lit ".") (lit "a/x.go")) ≠
        .ok (Text.encode (Generator.renderStub oneHandlerFound (lit "a/x.go") .standard)) := by
  intro fs inputs config ending
  have hoptions : Options.parse inputs = .ok (.plain inputs) := rfl
  have ha : fs.resolvePlainly? (lit "a/x.go") =
      some (.occupied [lit "a", lit "x.go"] (.file (Text.encode oneHandler))) := rfl
  have hb : fs.resolvePlainly? (lit "b/x.go") =
      some (.occupied [lit "b", lit "x.go"] (.file (Text.encode oneHandler))) := rfl
  have hplace : fs.destination? (Path.companion (lit ".") (lit "a/x.go")) =
      some [lit "x_test.go"] :=
    FileSystem.destination?_of_resolvePlainly? rfl
  have hplace' : fs.destination? (Path.companion (lit ".") (lit "b/x.go")) =
      some [lit "x_test.go"] :=
    FileSystem.destination?_of_resolvePlainly? rfl
  obtain ⟨hstatus, hsummary, hfs⟩ :=
    run_two hoptions (fun _ _ => rfl) ha hb hplace hplace' (by decide)
  have hfound : (Generator.classifyFile fs config (lit "a/x.go")).result = .ok oneHandlerFound :=
    result_classifyFile_oneHandler rfl (by decide) (FileSystem.status_of_resolvePlainly? ha)
  refine ⟨hoptions, collect_two ha hb, hfound, hstatus, hsummary, ?_⟩
  change (Session.run .plain inputs fs).session.fs.read _ ≠ _
  rw [hfs, FileSystem.read_insert]
  · intro hcontent
    have htext := congrArg Text.decode? (Except.ok.inj hcontent)
    rw [Text.decode?_encode, Text.decode?_encode] at htext
    revert htext
    decide
  · rwa [FileSystem.destination?_insert (FileSystem.replaceable_of_destination? hplace)]

end RouteStubs
