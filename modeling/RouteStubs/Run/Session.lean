import RouteStubs.FileSize
import RouteStubs.Inputs.Collect
import RouteStubs.Log.Filter
import RouteStubs.Report.Record
import RouteStubs.Report.Summary
import RouteStubs.Run.Generator
import RouteStubs.Run.Options

/-!
# Sessions

A whole run as a function of the command line, the environment and the file system. Files are
processed one after the other. A failure that is not fatal concerns only its file; a fatal one ends
the run.
-/

namespace RouteStubs

/-- The part of the environment that a run looks at. -/
structure Environment where
  /-- The variable `NO_COLOR`. -/
  noColour : Option Text
  /-- The variable `FORCE_COLOR`. -/
  forceColour : Option Text
  /-- The variable `TERM`. -/
  terminal : Option Text
  /-- The variable that holds the filter of the log. -/
  logFilter : Option Text
  /-- Standard output can be written to. -/
  outputWorks : Bool
  /-- Standard output is a terminal. -/
  outputIsTerminal : Bool

namespace Environment

/-- The terminal does not understand codes. -/
def isDumb (env : Environment) : Bool :=
  env.terminal == some (lit "dumb")

/-- Reports are coloured: it has to be asked for, and the terminal has to allow it. -/
def coloursReports (env : Environment) (mode : ColourMode) : Bool :=
  let wanted :=
    match mode with
    | .always => true
    | .never => false
    | .auto =>
      env.noColour.isNone &&
        (env.forceColour.isSome || (!env.isDumb && env.outputIsTerminal))
  wanted && env.terminal.isSome && !env.isDumb && env.noColour.isNone

/-- The log is coloured. -/
def coloursLog (env : Environment) : Bool :=
  (env.noColour.getD []).isEmpty

/-- The filter of the log. -/
def filter (env : Environment) (verbosity : Nat) : LogFilter :=
  ((env.logFilter.bind LogFilter.parse?).getD (LogFilter.ofVerbosity verbosity))

end Environment

/-- What a run writes to standard error. -/
inductive Notice where
  | event (e : Event)
  | failure (f : Failure)
  | badFileSize (text : Text) (fault : FileSize.Fault)
  | outputFailed (cause : SystemError)
  | usage (fault : Options.Fault)
  deriving DecidableEq, Repr

/-- A message of the program itself. -/
def Notice.programLine (message : Text) : Text :=
  lit "handlerstub: " ++ message ++ ['\n']

/-- The text of a notice. An event that the filter does not show has none. -/
def Notice.text (filter : LogFilter) (coloured : Bool) : Notice → Text
  | .event e => if filter.shows e then e.line coloured else []
  | .failure f => programLine f.message
  | .badFileSize text fault =>
    programLine (lit "invalid --max-file-size '" ++ text ++ lit "': " ++ fault.message)
  | .outputFailed cause => programLine (lit "error writing output: " ++ cause.message)
  | .usage fault => fault.message ++ ['\n']

/-- A session: what has been written so far, what has been counted, and the file system. -/
structure Session where
  fs : FileSystem
  output : Text
  notices : List Notice
  summary : Summary

/-- How a session ends: the session, the exit status, and how much was asked to be logged. -/
structure Ending where
  session : Session
  status : Nat
  verbosity : Nat

namespace Session

/-- A session at its beginning. -/
def start (fs : FileSystem) : Session := ⟨fs, [], [], .zero⟩

/-- Adds notices. -/
def notify (s : Session) (ns : List Notice) : Session :=
  { s with notices := s.notices ++ ns }

/-- Adds events. -/
def log (s : Session) (es : List Event) : Session :=
  s.notify (es.map .event)

/-- Writes to standard output. The error is the session as a failed write leaves it. -/
def print (env : Environment) (s : Session) (t : Text) : Except Session Session :=
  if env.outputWorks then .ok { s with output := s.output ++ t }
  else .error (s.notify [.outputFailed .noSpace])

/-- What is shown of the files. -/
structure Display where
  json : Bool
  report : Bool
  coloured : Bool

/-- Takes up what has been done with a file. -/
def recordOutcome (env : Environment) (display : Display) (path : Text) (outcome : Outcome)
    (s : Session) : Except Session Session :=
  let handlers := outcome.found.handlers.length
  let s := { s with summary := s.summary.recordScanned handlers }
  if display.json then s.print env (Record.line path outcome.found)
  else
    let entry? : Option (Text × Bool) :=
      match outcome with
      | .written output _ => some (output, false)
      | .planned output _ => some (output, true)
      | .noHandlers _ => none
    match entry? with
    | none => .ok s
    | some (output, dryRun) =>
      let s := { s with summary := s.summary.addWritten 1 }
      if display.report then
        s.print env (Report.writtenLine display.coloured output handlers dryRun)
      else .ok s

/-- Takes up a failure that concerns only its file. A file that is too large has not been
classified. -/
def recordSkipped (path : Text) (failure : Failure) (s : Session) : Session :=
  let s := s.notify [.failure failure, .event (.skipped path)]
  let summary :=
    match failure with
    | .tooLarge _ _ _ => s.summary
    | _ => s.summary.recordScanned 0
  { s with summary := summary.addSkipped 1 }

/-- Processes one file. The error is the session in which the run ends early. -/
def processPath (env : Environment) (display : Display) (config : Config) (path : Text)
    (s : Session) : Except Session Session :=
  let processed := Generator.processFile s.fs config path
  let s := { s.log processed.events with fs := processed.fs }
  match processed.outcome with
  | .ok outcome => recordOutcome env display path outcome s
  | .error failure =>
    if failure.isFatal then .error (s.notify [.failure failure])
    else .ok (s.recordSkipped path failure)

/-- Processes files one after the other. -/
def processPaths (env : Environment) (display : Display) (config : Config) :
    List Text → Session → Except Session Session
  | [], s => .ok s
  | path :: paths, s => do
    let s ← processPath env display config path s
    processPaths env display config paths s

/-- The size limit of a run. -/
def sizeLimit (options : Options) : Except Notice Nat :=
  match options.maxFileSize with
  | none => .ok Config.standardFileSize
  | some text => (FileSize.parse text).mapError (.badFileSize text)

/-- Runs with the given options. The error is the session in which the run ends early. -/
def runOptions (env : Environment) (options : Options) (s : Session) : Except Session Session := do
  let limit ←
    match sizeLimit options with
    | .ok limit => .ok limit
    | .error notice => .error (s.notify [notice])
  let config : Config :=
    ⟨options.outDir, options.accessor, options.dryRun || options.json, limit⟩
  let collected := Inputs.collect s.fs options.paths options.excludes
  let s := s.log collected.events
  let inputs ←
    match collected.result with
    | .ok inputs => .ok inputs
    | .error failure => .error (s.notify [.failure failure])
  let display : Display :=
    ⟨options.json, !options.quiet && !options.json, env.coloursReports options.colour⟩
  let s ← processPaths env display config inputs s
  if display.report then s.print env (Report.summaryLine display.coloured s.summary) else .ok s

/-- The version of the program. -/
def versionLine : Text := lit "handlerstub 0.1.0\n"

/-- The usage of the program. -/
def usageText : Text :=
  lit ("Generate Go test stubs for net/http handlers\n\n" ++
    "Usage: handlerstub [OPTIONS] <PATHS>...\n")

/-- Runs with the given arguments. -/
def run (env : Environment) (arguments : List Text) (fs : FileSystem) : Ending :=
  let s := start fs
  let informed (t : Text) : Session := if env.outputWorks then { s with output := t } else s
  match Options.parse arguments with
  | .error (.usage fault) => ⟨s.notify [.usage fault], 2, 0⟩
  | .error .version => ⟨informed versionLine, 0, 0⟩
  | .error .help => ⟨informed usageText, 0, 0⟩
  | .ok options =>
    match runOptions env options s with
    | .ok s => ⟨s, 0, options.verbosity⟩
    | .error s => ⟨s, 1, options.verbosity⟩

end Session

/-- The text of a notice in the log of a session that has ended. -/
def Ending.noticeText (env : Environment) (e : Ending) (n : Notice) : Text :=
  n.text (env.filter e.verbosity) env.coloursLog

/-- What a session has written to standard error. -/
def Ending.errorText (env : Environment) (e : Ending) : Text :=
  e.session.notices.flatMap (e.noticeText env)

end RouteStubs
