import RouteStubs.Proofs.Run.Sessions

/-!
# The effect of a run on the file system

A run changes the file system input by input. An input after which the run goes on either has no
effect, or it sets the file at the path of its test file to the rendering of the handlers that it
has at that moment (`Turn.Effect`); what is found through every other path stays as it was. The
first fatal failure ends the run, and what comes after it is not even looked at. If it is a failure
to fill a test file, the beginning of the test file is left at its path, and otherwise the failure
has no effect (`Turn.LastEffect`).

The file system may hold links and devices. A dry run, and one that writes records instead of files,
has no effect at all, even if every test file could be created.
-/

namespace RouteStubs

/-- The file system `fs'` is `fs` after `content` has been written at `place`. What stands elsewhere
is the same, and so is what is found through paths that lead elsewhere; only the reason for which
nothing is found can change, as the file at `place` may stand in the way of a path. Without links
the paths that lead to `place` have its name. -/
structure FileSystem.WrittenAt (fs : FileSystem) (place : Place) (content : List UInt8)
    (fs' : FileSystem) : Prop where
  entry : fs'.entry? place = some (.file content)
  entries : ∀ q, q ≠ place → fs'.entry? q = fs.entry? q
  read : ∀ p, fs.destination? p = some place → fs'.read p = .ok content
  others : ∀ p, fs.destination? p ≠ some place →
    (fs'.status p).toOption = (fs.status p).toOption
  named : fs.LinkFree → ∀ p, fs.destination? p = some place → Path.fileName? p = place.getLast?
  workingDirectory : fs'.workingDirectory = fs.workingDirectory

/-- What `insert` makes of a file system has been written at a place where a file can be put. -/
lemma FileSystem.Replaceable.writtenAt {fs : FileSystem} {place : Place} (h : fs.Replaceable place)
    (content : List UInt8) : fs.WrittenAt place content (fs.insert place (.file content)) where
  entry := by rw [entry?_insert fs h.ne_nil, if_pos rfl]
  entries q hq := by rw [entry?_insert fs h.ne_nil, if_neg hq]
  read p hp := read_insert hp content
  others p hp := status_insert_of_ne h hp content
  named hfs p hp := hfs.fileName?_of_destination? hp
  workingDirectory := rfl

namespace Turn

/-- What the input `path` does to `fs` if it does not end the run. -/
inductive Effect (config : Config) (fs : FileSystem) (path : Text) : FileSystem → Prop
  | written {found : Classification} {place : Place} {fs' : FileSystem}
      (classified : (Generator.classifyFile fs config path).result = .ok found)
      (handlers : found.handlers ≠ []) (real : config.dryRun = false)
      (destination : fs.destination? (Path.companion config.outDir path) = some place)
      (change : fs.WrittenAt place
        (Text.encode (Generator.renderStub found path config.accessor)) fs') :
      Effect config fs path fs'
  | planned {found : Classification}
      (classified : (Generator.classifyFile fs config path).result = .ok found)
      (handlers : found.handlers ≠ []) (dry : config.dryRun = true) : Effect config fs path fs
  | noHandlers {found : Classification}
      (classified : (Generator.classifyFile fs config path).result = .ok found)
      (handlers : found.handlers = []) : Effect config fs path fs
  | uncreatable {found : Classification} {cause : SystemError}
      (classified : (Generator.classifyFile fs config path).result = .ok found)
      (handlers : found.handlers ≠ []) (real : config.dryRun = false)
      (creation : fs.create (Path.companion config.outDir path) = .error cause) :
      Effect config fs path fs
  | tooLarge {place : Place} {e : Entry} (status : fs.status path = .ok (place, e))
      (size : config.maxFileSize < e.size) : Effect config fs path fs

/-- What the input `path` does to `fs` if it ends the run with the given failure. -/
inductive LastEffect (config : Config) (fs : FileSystem) (path : Text) : Failure → FileSystem → Prop
  | unclassified {failure : Failure}
      (classified : (Generator.classifyFile fs config path).result = .error failure) :
      LastEffect config fs path failure fs
  | cutShort {found : Classification} {place : Place} {room : Nat} {fs' : FileSystem}
      (classified : (Generator.classifyFile fs config path).result = .ok found)
      (handlers : found.handlers ≠ []) (real : config.dryRun = false)
      (destination : fs.destination? (Path.companion config.outDir path) = some place)
      (spare : fs.spare? place = some room)
      (short : room < (Text.encode (Generator.renderStub found path config.accessor)).length)
      (change : fs.WrittenAt place
        ((Text.encode (Generator.renderStub found path config.accessor)).take room) fs') :
      LastEffect config fs path (.render (Path.companion config.outDir path) .noSpace) fs'
  | fullDevice {found : Classification} {place : Place}
      (classified : (Generator.classifyFile fs config path).result = .ok found)
      (handlers : found.handlers ≠ []) (real : config.dryRun = false)
      (device : fs.status (Path.companion config.outDir path) = .ok (place, .fullDevice)) :
      LastEffect config fs path (.render (Path.companion config.outDir path) .noSpace) fs

/-- What inputs do to the file system one after the other, none of which ends the run. Each has an
`Effect` on what the ones in front of it have left. -/
inductive Effects (config : Config) : FileSystem → List Text → FileSystem → Prop
  | nil (fs : FileSystem) : Effects config fs [] fs
  | cons {fs last : FileSystem} {path : Text} {paths : List Text}
      (goes : isFatal (take config fs path).1.result = false)
      (first : Effect config fs path (take config fs path).2)
      (others : Effects config (take config fs path).2 paths last) :
      Effects config fs (path :: paths) last

/-- A turn that does not end the run has one of the effects in `Effect`, by its `Course`. -/
lemma effect_take {config : Config} {fs : FileSystem} {path : Text}
    (h : isFatal (take config fs path).1.result = false) :
    Effect config fs path (take config fs path).2 := by
  have hcourse := course_take config fs path
  generalize (take config fs path).1.result = result at h hcourse
  generalize (take config fs path).2 = fs' at hcourse ⊢
  cases hcourse with
  | unclassified classified =>
    obtain ⟨place, e, hstatus, hsize⟩ := Generator.exists_status_of_classifyFile classified h
    exact .tooLarge hstatus hsize
  | noHandlers classified handlers => exact .noHandlers classified handlers
  | planned classified handlers dry => exact .planned classified handlers dry
  | written classified handlers real destination =>
    exact .written classified handlers real destination
      ((FileSystem.replaceable_of_destination? destination).writtenAt _)
  | uncreatable classified handlers real _ creation =>
    exact .uncreatable classified handlers real creation
  | cutShort => cases h
  | fullDevice => cases h

/-- A turn that ends the run has one of the effects in `LastEffect`, by its `Course`. -/
lemma exists_lastEffect_take {config : Config} {fs : FileSystem} {path : Text}
    (h : isFatal (take config fs path).1.result = true) :
    ∃ failure, (take config fs path).1.result = .error failure ∧ failure.isFatal = true ∧
      LastEffect config fs path failure (take config fs path).2 := by
  have hcourse := course_take config fs path
  generalize (take config fs path).1.result = result at h hcourse ⊢
  generalize (take config fs path).2 = fs' at hcourse ⊢
  cases hcourse with
  | unclassified classified => exact ⟨_, rfl, h, .unclassified classified⟩
  | noHandlers => cases h
  | planned => cases h
  | written => cases h
  | uncreatable => cases h
  | cutShort classified handlers real destination spare short =>
    exact ⟨_, rfl, rfl, .cutShort classified handlers real destination spare short
      ((FileSystem.replaceable_of_destination? destination).writtenAt _)⟩
  | @fullDevice found place classified handlers real device =>
    have hstatus : fs.status (Path.companion config.outDir path) = .ok (place, .fullDevice) := by
      rw [FileSystem.status, device]
    exact ⟨_, rfl, rfl, .fullDevice classified handlers real hstatus⟩

end Turn

/-- If no result among `turns` is fatal, the inputs have their `Effects` one after the other. -/
lemma effects_turns {config : Config} {paths : List Text} {fs : FileSystem}
    (h : ((turns isFatal config paths fs).1.any fun t => isFatal t.result) = false) :
    Turn.Effects config fs paths (turns isFatal config paths fs).2 := by
  induction paths generalizing fs with
  | nil => exact .nil fs
  | cons path paths ih =>
    cases hfatal : isFatal (Turn.take config fs path).1.result with
    | true => simp [turns_cons_of_ends hfatal, hfatal] at h
    | false =>
      rw [turns_cons_of_not_ends hfatal] at h ⊢
      simp only [List.any_cons, hfatal, Bool.false_or] at h
      exact .cons hfatal (Turn.effect_take hfatal) (ih h)

/-- Either no turn ends the run, or `k` is the first input whose turn does, and `done` are the
inputs in front of it. -/
lemma exists_first_fatal (config : Config) (paths : List Text) (fs : FileSystem) :
    ((turns isFatal config paths fs).1.any fun t => isFatal t.result) = false ∨
      ∃ done k later, paths = done ++ k :: later ∧
        ((turns isFatal config done fs).1.any fun t => isFatal t.result) = false ∧
        isFatal (Turn.take config (turns isFatal config done fs).2 k).1.result = true := by
  induction paths generalizing fs with
  | nil => exact .inl rfl
  | cons path paths ih =>
    cases hfatal : isFatal (Turn.take config fs path).1.result with
    | true => exact .inr ⟨[], path, paths, rfl, rfl, hfatal⟩
    | false =>
      rw [turns_cons_of_not_ends hfatal]
      rcases ih (Turn.take config fs path).2 with hnone | ⟨done, k, later, rfl, hdone, hk⟩
      · exact .inl (by simp only [List.any_cons, hfatal, Bool.false_or, hnone])
      · refine .inr ⟨path :: done, k, later, rfl, ?_, ?_⟩
        · simp only [turns_cons_of_not_ends hfatal, List.any_cons, hfatal, Bool.false_or, hdone]
        · rwa [turns_cons_of_not_ends hfatal]

namespace Session

/-- To process `first ++ others` is to process `first` and then, in the session that is left,
`others`. -/
lemma processPaths_append (env : Environment) (display : Display) (config : Config)
    (first others : List Text) (s : Session) :
    processPaths env display config (first ++ others) s =
      (processPaths env display config first s).bind
        (processPaths env display config others) := by
  induction first generalizing s with
  | nil => rfl
  | cons path first ih =>
    change (processPath env display config path s).bind _ =
      ((processPath env display config path s).bind _).bind _
    cases processPath env display config path s with
    | error s' => rfl
    | ok s' => exact ih s'

/-- If the turn of `k` is the first one that ends the run, the session ends in the same `s'`
whatever inputs come after `k`. -/
lemma exists_processPaths_eq_error {env : Environment} (houtput : env.outputWorks = true)
    (display : Display) {config : Config} {done : List Text} {k : Text} {s : Session}
    (hdone : ((turns isFatal config done s.fs).1.any fun t => isFatal t.result) = false)
    (hk : isFatal (Turn.take config (turns isFatal config done s.fs).2 k).1.result = true) :
    ∃ s', s'.fs = (Turn.take config (turns isFatal config done s.fs).2 k).2 ∧
      ∀ others, processPaths env display config (done ++ k :: others) s = .error s' := by
  obtain ⟨s₁, hs₁, hfs₁, -⟩ := exists_processPaths env display config done s
  rw [ends_eq_isFatal houtput] at hs₁ hfs₁
  rw [hdone] at hs₁
  obtain ⟨s₂, hs₂, hfs₂, -⟩ := exists_processPath env display config k s₁
  rw [ends_eq_isFatal houtput, hfs₁, hk] at hs₂
  refine ⟨s₂, ?_, fun others => ?_⟩
  · rw [hfs₂, hfs₁]
  · rw [processPaths_append, hs₁]
    change (processPath env display config k s₁).bind _ = _
    rw [hs₂]
    rfl

end Session

/-- The inputs `done` in front of the first one that ends the run are determined, and so are that
one, `k`, and the file system `before` in which it is processed. -/
lemma Turn.Effects.split_unique {config : Config} {fs before before' : FileSystem}
    {done done' later later' : List Text} {k k' : Text}
    (h : Turn.Effects config fs done before)
    (hk : isFatal (Turn.take config before k).1.result = true)
    (h' : Turn.Effects config fs done' before')
    (hk' : isFatal (Turn.take config before' k').1.result = true)
    (hsame : done ++ k :: later = done' ++ k' :: later') :
    done = done' ∧ k = k' ∧ before = before' := by
  induction h generalizing done' with
  | nil fs =>
    cases h' with
    | nil => exact ⟨rfl, (List.cons.inj hsame).1, rfl⟩
    | cons goes =>
      obtain ⟨rfl, -⟩ := List.cons.inj hsame
      simp [hk] at goes
  | cons goes first others ih =>
    cases h' with
    | nil =>
      obtain ⟨rfl, -⟩ := List.cons.inj hsame
      simp [hk'] at goes
    | cons goes' first' others' =>
      obtain ⟨rfl, hrest⟩ := List.cons.inj hsame
      obtain ⟨rfl, rfl, rfl⟩ := ih hk others' hrest
      exact ⟨rfl, rfl, rfl⟩

/-- Where all of `done ++ k :: later` have their `Effects`, the turn of `k` does not end the run. -/
lemma Turn.Effects.isFatal_eq_false {config : Config} {fs before last : FileSystem}
    {done later : List Text} {k : Text} (hall : Turn.Effects config fs (done ++ k :: later) last)
    (h : Turn.Effects config fs done before) :
    isFatal (Turn.take config before k).1.result = false := by
  induction h with
  | nil fs =>
    cases hall with
    | cons goes => exact goes
  | cons goes first others ih =>
    cases hall with
    | cons goes' first' others' => exact ih others'

/-! ## A run that is cut short -/

/-- A file that is too large, a source file with a directory in the place of its test file, and
three more source files, of which `w.go` has a test file that can take five bytes only. -/
def FileSystem.crowded : FileSystem where
  entries := ([lit "big.go"], .file (List.replicate 101 0x20)) ::
    (withOneHandler [[lit "y_test.go"]]
      [[lit "y.go"], [lit "x.go"], [lit "w.go"], [lit "v.go"]]).entries
  workingDirectory := []
  room? := fun _ place => if place = [lit "w_test.go"] then some 5 else none

namespace Crowded

/-- The arguments of a run on the files in `FileSystem.crowded`. -/
def arguments : List Text :=
  [lit "--max-file-size", lit "100", lit "big.go", lit "y.go", lit "x.go", lit "w.go", lit "v.go"]

/-- The options that `arguments` stand for. -/
def options : Options :=
  { Options.plain [lit "big.go", lit "y.go", lit "x.go", lit "w.go", lit "v.go"] with
    maxFileSize := some (lit "100") }

/-- How the inputs are processed with `options`. -/
def config : Config := options.config 100

/-- The test file of the source file `source`, whose text is `oneHandler`. -/
def stub (source : Text) : List UInt8 :=
  Text.encode (Generator.renderStub oneHandlerFound source .standard)

/-- The file system once `x.go` has been given its test file. -/
def afterwards : FileSystem :=
  FileSystem.crowded.insert [lit "x_test.go"] (.file (stub (lit "x.go")))

lemma collect_options :
    (Inputs.collect FileSystem.crowded options.paths options.excludes).result =
      .ok options.paths := by
  apply Inputs.collect_of_isFile
  intro p hp
  simp only [options, Options.plain, List.mem_cons, List.not_mem_nil, or_false] at hp
  rcases hp with rfl | rfl | rfl | rfl | rfl <;> exact FileSystem.isFile_of_resolvePlainly? rfl

lemma take_big : Turn.take config FileSystem.crowded (lit "big.go") =
    (⟨lit "big.go", FileSystem.crowded, .error (.tooLarge (lit "big.go") 101 100)⟩,
      FileSystem.crowded) := by
  have hstatus : FileSystem.crowded.status (lit "big.go") =
      .ok ([lit "big.go"], .file (List.replicate 101 0x20)) :=
    FileSystem.status_of_resolvePlainly? rfl
  exact Turn.take_unclassified (Generator.result_classifyFile_of_tooLarge hstatus (by decide))

/-- A source file of the run is classified as `oneHandlerFound` as long as it is there. -/
lemma classifyFile_eq {fs : FileSystem} {path : Text} {place : Place}
    (h : fs.resolvePlainly? path = some (.occupied place (.file (Text.encode oneHandler)))) :
    (Generator.classifyFile fs config path).result = .ok oneHandlerFound :=
  result_classifyFile_oneHandler rfl (by decide) (FileSystem.status_of_resolvePlainly? h)

lemma take_y : Turn.take config FileSystem.crowded (lit "y.go") =
    (⟨lit "y.go", FileSystem.crowded, .error (.creation (lit "./y_test.go") .isDirectory)⟩,
      FileSystem.crowded) := by
  have hresolve : FileSystem.crowded.resolve true (lit "./y_test.go") =
      .ok (.occupied [lit "y_test.go"] .directory) :=
    FileSystem.resolve_of_resolvePlainly? rfl true
  have hcreate : FileSystem.crowded.create (lit "./y_test.go") = .error .isDirectory := by
    rw [FileSystem.create, hresolve]
  exact Turn.take_uncreatable (classifyFile_eq rfl) handlers_oneHandlerFound rfl hcreate

lemma take_x : Turn.take config FileSystem.crowded (lit "x.go") =
    (⟨lit "x.go", FileSystem.crowded, .ok (.written (lit "./x_test.go") oneHandlerFound)⟩,
      afterwards) :=
  Turn.take_written (classifyFile_eq rfl) handlers_oneHandlerFound rfl
    (FileSystem.destination?_of_resolvePlainly? rfl) rfl

lemma short_stub : 5 < (stub (lit "w.go")).length := by
  have hbeginning : (stub (lit "w.go")).take 6 = Text.encode (lit "// Cod") := rfl
  have hlength : ((stub (lit "w.go")).take 6).length = 6 := by
    rw [hbeginning]
    rfl
  rw [List.length_take] at hlength
  omega

lemma classifyFile_w : (Generator.classifyFile afterwards config (lit "w.go")).result =
    .ok oneHandlerFound :=
  classifyFile_eq rfl

lemma resolve_w :
    afterwards.resolvePlainly? (lit "./w_test.go") = some (.vacant [lit "w_test.go"]) :=
  rfl

lemma isFatal_take_w : isFatal (Turn.take config afterwards (lit "w.go")).1.result = true := by
  have hplace : afterwards.destination? (lit "./w_test.go") = some [lit "w_test.go"] :=
    FileSystem.destination?_of_resolvePlainly? resolve_w
  have hroom : afterwards.spare? [lit "w_test.go"] = some 5 := rfl
  rw [Turn.take_cutShort classifyFile_w handlers_oneHandlerFound rfl hplace hroom short_stub]
  rfl

/-- The inputs in front of `w.go` do not end the run. -/
lemma effects : Turn.Effects config FileSystem.crowded [lit "big.go", lit "y.go", lit "x.go"]
    afterwards := by
  have hbig : isFatal (Turn.take config FileSystem.crowded (lit "big.go")).1.result = false := by
    rw [take_big]
    rfl
  have hy : isFatal (Turn.take config FileSystem.crowded (lit "y.go")).1.result = false := by
    rw [take_y]
    rfl
  have hx : isFatal (Turn.take config FileSystem.crowded (lit "x.go")).1.result = false := by
    rw [take_x]
    rfl
  refine .cons hbig (Turn.effect_take hbig) ?_
  rw [take_big]
  refine .cons hy (Turn.effect_take hy) ?_
  rw [take_y]
  refine .cons hx (Turn.effect_take hx) ?_
  rw [take_x]
  exact .nil afterwards

end Crowded

/-! ## Whole runs -/

/-- The effect of a run. Without a size limit or without inputs there is none, and neither is there
in a dry run or one that writes records. Otherwise the inputs have their `Effects` one after the
other, up to the first input `k` that ends the run, if there is one. This one leaves the beginning
of its test file if it cannot be filled to its end, and has no effect if it fails otherwise
(`LastEffect`). The session ends in the same way whatever inputs come after `k`. -/
theorem run_effects {env : Environment} {arguments : List Text} {options : Options}
    (houtput : env.outputWorks = true) (hoptions : Options.parse arguments = .ok options)
    (fs : FileSystem) :
    let ending := Session.run env arguments fs
    ((∃ notice, Session.sizeLimit options = .error notice) ∨
        (∃ failure, (Inputs.collect fs options.paths options.excludes).result = .error failure) →
      ending.session.fs = fs ∧ ending.status = 1) ∧
    ((options.dryRun || options.json) = true → ending.session.fs = fs) ∧
    ∀ limit inputs, Session.sizeLimit options = .ok limit →
      (Inputs.collect fs options.paths options.excludes).result = .ok inputs →
      (Turn.Effects (options.config limit) fs inputs ending.session.fs ∧ ending.status = 0) ∨
        ∃ done k later before failure, inputs = done ++ k :: later ∧
          Turn.Effects (options.config limit) fs done before ∧
          (Turn.take (options.config limit) before k).1.result = .error failure ∧
          failure.isFatal = true ∧
          Turn.LastEffect (options.config limit) before k failure ending.session.fs ∧
          ending.status = 1 ∧
          ∀ others, Session.processPaths env (options.display env) (options.config limit)
            (done ++ k :: others) (Session.collected options fs) = .error ending.session := by
  refine ⟨Session.run_of_failure hoptions, Session.fs_run_of_dryRun hoptions,
    fun limit inputs hlimit hinputs => ?_⟩
  rcases exists_first_fatal (options.config limit) inputs fs with
    hnone | ⟨done, k, later, rfl, hdone, hk⟩
  · left
    obtain ⟨s, hs, hfs, -⟩ := Session.exists_processPaths env (options.display env)
      (options.config limit) inputs (Session.collected options fs)
    rw [Session.ends_eq_isFatal houtput] at hs hfs
    have hok : Session.processPaths env (options.display env) (options.config limit) inputs
        (Session.collected options fs) = .ok s := by
      rw [hs, Session.fs_collected, hnone]
      rfl
    obtain ⟨s', hfs', -, hrun⟩ := Session.exists_run_of_ok hlimit hinputs hoptions hok
    rw [hrun, hfs', hfs]
    exact ⟨effects_turns hnone, by simp [houtput]⟩
  · right
    obtain ⟨s, hfs, hs⟩ := Session.exists_processPaths_eq_error houtput (options.display env)
      (s := Session.collected options fs) hdone hk
    obtain ⟨failure, hfailure, hfatal, hlast⟩ := Turn.exists_lastEffect_take hk
    rw [Session.run_of_error hlimit hinputs hoptions (hs later), hfs]
    exact ⟨done, k, later, _, failure, rfl, effects_turns hdone, hfailure, hfatal, hlast, rfl, hs⟩

namespace Crowded

/-- A run on `big.go`, which is too large, on `y.go`, whose test file cannot be created, and on
`x.go`, whose test file is written. It ends with `w.go`, whose test file cannot be filled to its
end. -/
theorem run_effects_cutShort :
    let ending := Session.run .plain arguments FileSystem.crowded
    Environment.plain.outputWorks = true ∧ Options.parse arguments = .ok options ∧
      ending.status = 1 ∧
      ending.session.fs.entry? [lit "x_test.go"] = some (.file (stub (lit "x.go"))) ∧
      ending.session.fs.entry? [lit "w_test.go"] = some (.file (Text.encode (lit "// Co"))) ∧
      ending.session.fs.entry? [lit "v_test.go"] = none := by
  intro ending
  have hoptions : Options.parse arguments = .ok options := rfl
  have hworks : Environment.plain.outputWorks = true := rfl
  have hinputs : options.paths =
      [lit "big.go", lit "y.go", lit "x.go"] ++ lit "w.go" :: [lit "v.go"] := rfl
  rcases (run_effects hworks hoptions FileSystem.crowded).2.2 100 _
    (Session.sizeLimit_of_hundred rfl) collect_options with
    ⟨hall, -⟩ | ⟨done, k, later, before, failure, hsplit, hdone, hfailure, hfatal, hlast, hstatus,
      -⟩
  · -- The test file of `w.go` ends the run.
    change Turn.Effects config FileSystem.crowded options.paths _ at hall
    rw [hinputs] at hall
    have hgoes := hall.isFatal_eq_false effects
    rw [isFatal_take_w] at hgoes
    cases hgoes
  · change (Turn.take config before k).1.result = .error failure at hfailure
    have hk : isFatal (Turn.take config before k).1.result = true := by
      rw [hfailure]
      exact hfatal
    rw [hinputs] at hsplit
    obtain ⟨rfl, rfl, rfl⟩ := effects.split_unique isFatal_take_w hdone hk hsplit
    refine ⟨rfl, hoptions, hstatus, ?_⟩
    have hplace : afterwards.destination? (lit "./w_test.go") = some [lit "w_test.go"] :=
      FileSystem.destination?_of_resolvePlainly? resolve_w
    change Turn.LastEffect config afterwards (lit "w.go") failure ending.session.fs at hlast
    generalize ending.session.fs = last at hlast ⊢
    cases hlast with
    | unclassified classified =>
      rw [classifyFile_w] at classified
      cases classified
    | fullDevice classified handlers real device =>
      have hvacant : afterwards.resolve true (lit "./w_test.go") =
          .ok (.vacant [lit "w_test.go"]) :=
        FileSystem.resolve_of_resolvePlainly? resolve_w true
      change afterwards.status (lit "./w_test.go") = _ at device
      rw [FileSystem.status, hvacant] at device
      cases device
    | cutShort classified handlers real destination spare short change =>
      obtain rfl := Except.ok.inj (classifyFile_w.symm.trans classified)
      obtain rfl := Option.some.inj (hplace.symm.trans destination)
      obtain rfl : 5 = _ := Option.some.inj spare
      refine ⟨?_, ?_, ?_⟩
      · rw [change.entries _ (by decide)]
        rfl
      · rw [change.entry]
        rfl
      · rw [change.entries _ (by decide)]
        rfl

end Crowded

/-- In a dry run, an input with a handler is left without a test file that could have been created.
-/
theorem dryRun_leaves_handler_without_companion :
    let fs := FileSystem.withOneHandler [] [[lit "x.go"]]
    let options := { Options.plain [lit "x.go"] with dryRun := true }
    let config := options.config Config.standardFileSize
    let ending := Session.run .plain [lit "-n", lit "x.go"] fs
    Environment.plain.outputWorks = true ∧
      Options.parse [lit "-n", lit "x.go"] = .ok options ∧
      (Inputs.collect fs options.paths options.excludes).result = .ok [lit "x.go"] ∧
      (Generator.classifyFile fs config (lit "x.go")).result = .ok oneHandlerFound ∧
      fs.destination? (Path.companion config.outDir (lit "x.go")) = some [lit "x_test.go"] ∧
      ending.status = 0 ∧ ending.session.fs.entry? [lit "x_test.go"] = none := by
  intro fs options config ending
  have hoptions : Options.parse [lit "-n", lit "x.go"] = .ok options := rfl
  have hfound : (Generator.classifyFile fs config (lit "x.go")).result = .ok oneHandlerFound :=
    classifyFile_source rfl (by decide)
  obtain ⟨s, hs, -, -⟩ := Session.exists_processPaths .plain (options.display .plain) config
    [lit "x.go"] (Session.collected options fs)
  have hok : Session.processPaths .plain (options.display .plain) config [lit "x.go"]
      (Session.collected options fs) = .ok s := by
    rw [hs, Session.ends_eq_isFatal rfl, turns, Session.fs_collected,
      Turn.take_planned hfound handlers_oneHandlerFound rfl]
    rfl
  obtain ⟨s', -, -, hrun⟩ := Session.exists_run_of_ok rfl collect_source hoptions hok
  refine ⟨rfl, hoptions, collect_source, hfound, destination?_source, ?_, ?_⟩
  · change (Session.run .plain [lit "-n", lit "x.go"] fs).status = 0
    rw [hrun]
    rfl
  · change FileSystem.entry? (Session.run .plain [lit "-n", lit "x.go"] fs).session.fs _ = none
    rw [Session.fs_run_of_dryRun hoptions rfl]
    rfl

end RouteStubs
