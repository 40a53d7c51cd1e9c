import RouteStubs.Proofs.FileSystem.LinkFree
import RouteStubs.Proofs.Run.Attempts
import RouteStubs.Run.Session

/-!
# Turns

The inputs of a run are processed one after the other, each in the file system that the ones before
it have left. A `Turn` is what becomes of one input, and `turns` are those of a run up to the one
that ends it. What a turn can do is said once, by `Turn.course_take`.
-/

namespace RouteStubs

/-- What becomes of the input `path`. -/
structure Turn where
  path : Text
  /-- The file system in which the input is processed. -/
  fs : FileSystem
  result : Except Failure Outcome

namespace Turn

/-- The turn of the input `path`, and the file system after it: what `Generator.processFile` comes
to, without what it notes. -/
def take (config : Config) (fs : FileSystem) (path : Text) : Turn × FileSystem :=
  (⟨path, fs, (Generator.processFile fs config path).outcome⟩,
    (Generator.processFile fs config path).fs)

@[simp] lemma path_take (config : Config) (fs : FileSystem) (path : Text) :
    (take config fs path).1.path = path := rfl

@[simp] lemma fs_take (config : Config) (fs : FileSystem) (path : Text) :
    (take config fs path).1.fs = fs := rfl

section

variable {config : Config} {fs : FileSystem} {path : Text}

/-- The turn of an input for which `classifyFile` fails. -/
lemma take_unclassified {failure : Failure}
    (h : (Generator.classifyFile fs config path).result = .error failure) :
    take config fs path = (⟨path, fs, .error failure⟩, fs) := by
  rw [take, Generator.processFile_of_error h]

variable {found : Classification}
  (hfound : (Generator.classifyFile fs config path).result = .ok found)
include hfound

/-- The turn of an input without handlers. -/
lemma take_noHandlers (hhandlers : found.handlers = []) :
    take config fs path = (⟨path, fs, .ok (.noHandlers found)⟩, fs) := by
  rw [take, Generator.processFile_of_ok hfound, Generator.process_of_noHandlers hhandlers]

variable (hhandlers : found.handlers ≠ [])
include hhandlers

/-- The turn of an input with handlers in a dry run. -/
lemma take_planned (hdry : config.dryRun = true) :
    take config fs path =
      (⟨path, fs, .ok (.planned (Path.companion config.outDir path) found)⟩, fs) := by
  rw [take, Generator.processFile_of_ok hfound, Generator.process_of_dryRun hhandlers hdry]

variable (hdry : config.dryRun = false)
include hdry

/-- Outside a dry run, the turn of an input with handlers is that of `writeCompanion`. -/
lemma take_real :
    take config fs path =
      (⟨path, fs, (Generator.writeCompanion fs found path config.accessor
          config.outDir).outcome.map (Outcome.ofOutput found)⟩,
        (Generator.writeCompanion fs found path config.accessor config.outDir).fs) := by
  rw [take, Generator.processFile_of_ok hfound, Generator.process_of_real hhandlers hdry]
  rfl

/-- The turn of an input with handlers for which `create` fails: nothing is changed. -/
lemma take_uncreatable {cause : SystemError}
    (hcreate : fs.create (Path.companion config.outDir path) = .error cause) :
    take config fs path =
      (⟨path, fs, .error (.creation (Path.companion config.outDir path) cause)⟩, fs) := by
  rw [take_real hfound hhandlers hdry, Generator.writeCompanion_of_error hhandlers _ hcreate]
  rfl

variable {place : Place}

/-- The turn of an input with handlers whose test file goes to a `place` that takes all of it. -/
lemma take_written (hplace : fs.destination? (Path.companion config.outDir path) = some place)
    (htakes : fs.Takes place (Text.encode (Generator.renderStub found path config.accessor))) :
    take config fs path =
      (⟨path, fs, .ok (.written (Path.companion config.outDir path) found)⟩, fs.insert place
        (.file (Text.encode (Generator.renderStub found path config.accessor)))) := by
  rw [take_real hfound hhandlers hdry,
    Generator.writeCompanion_of_takes hhandlers _ hplace htakes]
  rfl

/-- The turn of an input with handlers whose test file goes to a `place` with too little room: its
first `room` bytes are left there. -/
lemma take_cutShort {room : Nat}
    (hplace : fs.destination? (Path.companion config.outDir path) = some place)
    (hroom : fs.spare? place = some room)
    (hlt : room < (Text.encode (Generator.renderStub found path config.accessor)).length) :
    take config fs path =
      (⟨path, fs, .error (.render (Path.companion config.outDir path) .noSpace)⟩, fs.insert place
        (.file ((Text.encode (Generator.renderStub found path config.accessor)).take room))) := by
  rw [take_real hfound hhandlers hdry,
    Generator.writeCompanion_of_spare? hhandlers _ hplace hroom hlt]
  rfl

/-- The turn of an input with handlers whose test file would go to a device that is full. -/
lemma take_fullDevice
    (hdevice : fs.resolve true (Path.companion config.outDir path) =
      .ok (.occupied place .fullDevice)) :
    take config fs path =
      (⟨path, fs, .error (.render (Path.companion config.outDir path) .noSpace)⟩, fs) := by
  rw [take_real hfound hhandlers hdry, Generator.writeCompanion_of_fullDevice hhandlers _ hdevice]
  rfl

end

/-- The courses that the turn of `path` can take: its result, and the file system after it. -/
inductive Course (config : Config) (fs : FileSystem) (path : Text) :
    Except Failure Outcome → FileSystem → Prop
  | unclassified {failure : Failure}
      (classified : (Generator.classifyFile fs config path).result = .error failure) :
      Course config fs path (.error failure) fs
  | noHandlers {found : Classification}
      (classified : (Generator.classifyFile fs config path).result = .ok found)
      (handlers : found.handlers = []) :
      Course config fs path (.ok (.noHandlers found)) fs
  | planned {found : Classification}
      (classified : (Generator.classifyFile fs config path).result = .ok found)
      (handlers : found.handlers ≠ []) (dry : config.dryRun = true) :
      Course config fs path (.ok (.planned (Path.companion config.outDir path) found)) fs
  | written {found : Classification} {place : Place}
      (classified : (Generator.classifyFile fs config path).result = .ok found)
      (handlers : found.handlers ≠ []) (real : config.dryRun = false)
      (destination : fs.destination? (Path.companion config.outDir path) = some place)
      (takes : fs.Takes place
        (Text.encode (Generator.renderStub found path config.accessor))) :
      Course config fs path (.ok (.written (Path.companion config.outDir path) found))
        (fs.insert place (.file (Text.encode (Generator.renderStub found path config.accessor))))
  | uncreatable {found : Classification} {cause : SystemError}
      (classified : (Generator.classifyFile fs config path).result = .ok found)
      (handlers : found.handlers ≠ []) (real : config.dryRun = false)
      (destination : fs.destination? (Path.companion config.outDir path) = none)
      (creation : fs.create (Path.companion config.outDir path) = .error cause) :
      Course config fs path (.error (.creation (Path.companion config.outDir path) cause)) fs
  | cutShort {found : Classification} {place : Place} {room : Nat}
      (classified : (Generator.classifyFile fs config path).result = .ok found)
      (handlers : found.handlers ≠ []) (real : config.dryRun = false)
      (destination : fs.destination? (Path.companion config.outDir path) = some place)
      (spare : fs.spare? place = some room)
      (short : room < (Text.encode (Generator.renderStub found path config.accessor)).length) :
      Course config fs path (.error (.render (Path.companion config.outDir path) .noSpace))
        (fs.insert place
          (.file ((Text.encode (Generator.renderStub found path config.accessor)).take room)))
  | fullDevice {found : Classification} {place : Place}
      (classified : (Generator.classifyFile fs config path).result = .ok found)
      (handlers : found.handlers ≠ []) (real : config.dryRun = false)
      (device : fs.resolve true (Path.companion config.outDir path) =
        .ok (.occupied place .fullDevice)) :
      Course config fs path (.error (.render (Path.companion config.outDir path) .noSpace)) fs

/-- Every turn takes one of the courses in `Course`. -/
lemma course_take (config : Config) (fs : FileSystem) (path : Text) :
    Course config fs path (take config fs path).1.result (take config fs path).2 := by
  cases hfound : (Generator.classifyFile fs config path).result with
  | error failure =>
    rw [take_unclassified hfound]
    exact .unclassified hfound
  | ok found =>
    by_cases hhandlers : found.handlers = []
    · rw [take_noHandlers hfound hhandlers]
      exact .noHandlers hfound hhandlers
    · cases hdry : config.dryRun with
      | true =>
        rw [take_planned hfound hhandlers hdry]
        exact .planned hfound hhandlers hdry
      | false =>
        cases hplace : fs.destination? (Path.companion config.outDir path) with
        | some place =>
          by_cases htakes : fs.Takes place
              (Text.encode (Generator.renderStub found path config.accessor))
          · rw [take_written hfound hhandlers hdry hplace htakes]
            exact .written hfound hhandlers hdry hplace htakes
          · obtain ⟨room, hroom, hlt⟩ := FileSystem.exists_spare?_of_not_takes htakes
            rw [take_cutShort hfound hhandlers hdry hplace hroom hlt]
            exact .cutShort hfound hhandlers hdry hplace hroom hlt
        | none =>
          rcases FileSystem.create_of_destination?_eq_none hplace with
            ⟨cause, hcreate⟩ | ⟨place, hdevice⟩
          · rw [take_uncreatable hfound hhandlers hdry hcreate]
            exact .uncreatable hfound hhandlers hdry hplace hcreate
          · rw [take_fullDevice hfound hhandlers hdry hdevice]
            exact .fullDevice hfound hhandlers hdry hdevice

/-- The turn of `path` leaves `fs` alone, or it writes the first `n` bytes of the test file of its
input. -/
lemma take_eq_or_insert (config : Config) (fs : FileSystem) (path : Text) :
    (take config fs path).2 = fs ∨
      ∃ found place n, (Generator.classifyFile fs config path).result = .ok found ∧
        found.handlers ≠ [] ∧ config.dryRun = false ∧
        fs.destination? (Path.companion config.outDir path) = some place ∧
        (take config fs path).2 = fs.insert place
          (.file ((Text.encode (Generator.renderStub found path config.accessor)).take n)) := by
  have hcourse := course_take config fs path
  generalize (take config fs path).1.result = result at hcourse
  generalize (take config fs path).2 = fs' at hcourse ⊢
  cases hcourse with
  | @written found place classified handlers real destination =>
    let bytes := Text.encode (Generator.renderStub found path config.accessor)
    refine .inr ⟨found, place, bytes.length, classified, handlers, real, destination, ?_⟩
    rw [List.take_length]
  | cutShort classified handlers real destination =>
    exact .inr ⟨_, _, _, classified, handlers, real, destination, rfl⟩
  | unclassified => exact .inl rfl
  | noHandlers => exact .inl rfl
  | planned => exact .inl rfl
  | uncreatable => exact .inl rfl
  | fullDevice => exact .inl rfl

/-- In a dry run `take` leaves the file system alone. -/
lemma take_of_dryRun {config : Config} (hdry : config.dryRun = true) (fs : FileSystem)
    (path : Text) : (take config fs path).2 = fs := by
  rcases take_eq_or_insert config fs path with hsame | ⟨_, _, _, _, _, hreal, _⟩
  · exact hsame
  · simp [hdry] at hreal

/-- A turn does not change `destination?`, so files go where they would have gone before. -/
lemma destination?_take (config : Config) (fs : FileSystem) (path p : Text) :
    (take config fs path).2.destination? p = fs.destination? p := by
  rcases take_eq_or_insert config fs path with hsame | ⟨_, place, _, _, _, _, hplace, hinsert⟩
  · rw [hsame]
  · rw [hinsert]
    exact FileSystem.destination?_insert (FileSystem.replaceable_of_destination? hplace) _ p

end Turn

/-- The turns of inputs up to the first one at whose result the run `ends`, and the file system
after them. -/
def turns (ends : Except Failure Outcome → Bool) (config : Config) :
    List Text → FileSystem → List Turn × FileSystem
  | [], fs => ([], fs)
  | path :: paths, fs =>
    let (turn, fs') := Turn.take config fs path
    if ends turn.result then ([turn], fs')
    else
      let (others, last) := turns ends config paths fs'
      (turn :: others, last)

/-- The `result` is a failure that ends the run. -/
def isFatal : Except Failure Outcome → Bool
  | .ok _ => false
  | .error failure => failure.isFatal

lemma turns_cons_of_ends {ends : Except Failure Outcome → Bool} {config : Config} {path : Text}
    {paths : List Text} {fs : FileSystem} (h : ends (Turn.take config fs path).1.result = true) :
    turns ends config (path :: paths) fs =
      ([(Turn.take config fs path).1], (Turn.take config fs path).2) := by
  simp [turns, h]

lemma turns_cons_of_not_ends {ends : Except Failure Outcome → Bool} {config : Config} {path : Text}
    {paths : List Text} {fs : FileSystem} (h : ends (Turn.take config fs path).1.result = false) :
    turns ends config (path :: paths) fs =
      ((Turn.take config fs path).1 :: (turns ends config paths (Turn.take config fs path).2).1,
        (turns ends config paths (Turn.take config fs path).2).2) := by
  simp [turns, h]

/-- The `turns` of a dry run leave the file system alone. -/
lemma turns_of_dryRun (ends : Except Failure Outcome → Bool) {config : Config}
    (hdry : config.dryRun = true) (paths : List Text) (fs : FileSystem) :
    (turns ends config paths fs).2 = fs := by
  induction paths with
  | nil => rfl
  | cons path paths ih =>
    cases hends : ends (Turn.take config fs path).1.result with
    | true => rw [turns_cons_of_ends hends, Turn.take_of_dryRun hdry]
    | false => rw [turns_cons_of_not_ends hends, Turn.take_of_dryRun hdry, ih]

/-! ## A source file with a handler -/

/-- The text of a source file with one handler. -/
def oneHandler : Text := lit "package a;func F(x.ResponseWriter,*http.Request)\n"

/-- What is found in `oneHandler`. -/
def oneHandlerFound : Classification := ⟨lit "a", [⟨lit "F", []⟩]⟩

lemma handlers_oneHandlerFound : oneHandlerFound.handlers ≠ [] := List.cons_ne_nil _ _

lemma parse_oneHandler :
    (Syntax.SourceFile.parse oneHandler).toOption.map (Classification.ofFile .standard) =
      some oneHandlerFound := by
  decide +kernel

/-- A file system with the given `directories`, and with the text `oneHandler` at the places
`sources`. -/
def FileSystem.withOneHandler (directories sources : List Place) : FileSystem where
  entries := directories.map (·, .directory) ++ sources.map (·, .file (Text.encode oneHandler))
  workingDirectory := []

/-- The handler of `oneHandler` is found wherever the file stands, if it is not too large. -/
lemma result_classifyFile_oneHandler {fs : FileSystem} {config : Config} {path : Text}
    {place : Place} (haccessor : config.accessor = .standard)
    (hsize : (Text.encode oneHandler).length ≤ config.maxFileSize)
    (h : fs.status path = .ok (place, .file (Text.encode oneHandler))) :
    (Generator.classifyFile fs config path).result = .ok oneHandlerFound := by
  apply Generator.result_classifyFile_of_parse h hsize
  rw [haccessor]
  exact parse_oneHandler

end RouteStubs
