import RouteStubs.Handler.Classify
import RouteStubs.Path.Companion
import RouteStubs.Run.Attempt
import RouteStubs.Template.Sink
import RouteStubs.Template.Stub

/-!
# Generating test files

What is done with one source file: it is read, its handlers are found, and its test file is written.
In a dry run nothing is written.
-/

namespace RouteStubs

/-- How test files are generated. -/
structure Config where
  /-- The directory to which test files are written. -/
  outDir : Text
  accessor : Accessor
  dryRun : Bool
  /-- Larger source files are passed over. -/
  maxFileSize : Nat
  deriving Repr

namespace Config

/-- The size up to which source files are processed unless another one is chosen. -/
def standardFileSize : Nat := 1024 * 1024

/-- The configuration that is used unless another one is chosen. -/
def standard : Config := ⟨lit ".", .standard, false, standardFileSize⟩

end Config

/-- What has been done with a source file. -/
inductive Outcome where
  | written (output : Text) (found : Classification)
  | planned (output : Text) (found : Classification)
  | noHandlers (found : Classification)
  deriving DecidableEq, Repr

/-- The handlers of the file. -/
def Outcome.found : Outcome → Classification
  | .written _ c | .planned _ c | .noHandlers c => c

/-- The test file, if there is to be one. -/
def Outcome.output? : Outcome → Option Text
  | .written output _ | .planned output _ => some output
  | .noHandlers _ => none

/-- What has been done once the test file has been written, if there is one. -/
def Outcome.ofOutput (found : Classification) : Option Text → Outcome
  | some output => .written output found
  | none => .noHandlers found

namespace Generator

/-- A text without the byte order mark in front. -/
def withoutMark (t : Text) : Text :=
  if t.head? == some '\ufeff' then t.tail else t

/-- The text of a source file that is not larger than the given size. -/
def readSource (fs : FileSystem) (path : Text) (maxSize : Nat) : Except Failure Text :=
  match fs.status path with
  | .error cause => .error (.read path cause)
  | .ok (_, e) =>
    if maxSize < e.size then .error (.tooLarge path e.size maxSize)
    else
      match fs.readText path with
      | .error cause => .error (.read path cause)
      | .ok t => .ok (withoutMark t)

/-- The event of a verdict. -/
def verdictEvent (a : Accessor) : Verdict → Event
  | .handler h => .matched h a
  | .noHandler name => .notHandler name

/-- Finds the handlers of a source text. -/
def classifySource (a : Accessor) (path source : Text) : Traced Classification :=
  match Syntax.SourceFile.parse source with
  | .error fault => Traced.fail (.parse path fault)
  | .ok file =>
    ⟨(Classification.verdicts a file).map (verdictEvent a), .ok (Classification.ofFile a file)⟩

/-- Reads a source file and finds its handlers. -/
def classifyFile (fs : FileSystem) (config : Config) (path : Text) : Traced Classification := do
  let source ← Traced.ofExcept (readSource fs path config.maxFileSize)
  classifySource config.accessor path source

/-- The test file of a source file with the given handlers. -/
def renderStub (found : Classification) (source : Text) (a : Accessor) : Text :=
  Template.render (.ofClassification found source a) Template.stub

/-- Fills a template into the sink of the file with the given path, and flushes the sink in the end.
Whether a write fails or the flush does, the file cannot be rendered. -/
def renderInto (ctx : Template.Context) (t : Template) (output : Text) (sink : Template.Sink)
    (writeError : SystemError) (flush : Except SystemError Unit) : Except Failure Unit :=
  match Template.renderInto ctx t sink with
  | .error _ => .error (.render output writeError)
  | .ok _ => flush.mapError (.render output)

/-- Writes the test file of a source file, unless it has no handlers. The outcome is the path of the
test file. The file is created before it is filled, so that it is there with what it has taken also
if it cannot be filled to its end. -/
def writeCompanion (fs : FileSystem) (found : Classification) (source : Text) (a : Accessor)
    (outDir : Text) : Attempt (Option Text) :=
  if found.isEmpty then ⟨[], .ok none, fs⟩
  else
    let output := Path.companion outDir source
    match fs.create output with
    | .error cause => ⟨[], .error (.creation output cause), fs⟩
    | .ok (place, fs) =>
      let ctx := Template.Context.ofClassification found source a
      let sink : Template.Sink := ⟨[], fs.roomAt? place⟩
      let filled := Template.Sink.left (Template.renderInto ctx Template.stub sink)
      let fs := fs.fill place filled.taken
      match renderInto ctx Template.stub output sink .noSpace (.ok ()) with
      | .error failure => ⟨[], .error failure, fs⟩
      | .ok _ => ⟨[.wrote output found.handlers.length], .ok (some output), fs⟩

/-- Does what is to be done with a source file in which `found` has been found. -/
def process (fs : FileSystem) (config : Config) (path : Text) (found : Classification) :
    Attempt Outcome :=
  if found.isEmpty then ⟨[], .ok (.noHandlers found), fs⟩
  else if config.dryRun then ⟨[], .ok (.planned (Path.companion config.outDir path) found), fs⟩
  else
    (writeCompanion fs found path config.accessor config.outDir).map (Outcome.ofOutput found)

/-- Processes a source file: it is classified, and then its test file is written. -/
def processFile (fs : FileSystem) (config : Config) (path : Text) : Attempt Outcome :=
  Attempt.after (classifyFile fs config path) fs fun found =>
    Attempt.after (Traced.note (.classified path found.package found.handlers.length)) fs fun _ =>
      process fs config path found

end Generator

end RouteStubs
