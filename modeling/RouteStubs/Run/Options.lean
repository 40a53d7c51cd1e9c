import RouteStubs.Accessor
import RouteStubs.Text.Numeral

/-!
# Options

The command line: paths, and options that are written with one hyphen and a letter or with two
hyphens and a word. Letters can be joined, a value can be joined to its option, and after two
hyphens alone everything is a path. A value that stands in an argument of its own is looked at only
when the next option or path comes up, or at the end.
-/

namespace RouteStubs

/-- When reports are coloured. -/
inductive ColourMode where
  | auto | always | never
  deriving DecidableEq, Repr

/-- The word of each mode. -/
def ColourMode.ofWord? (t : Text) : Option ColourMode :=
  if t = lit "auto" then some .auto
  else if t = lit "always" then some .always
  else if t = lit "never" then some .never
  else none

/-- What a run is to do. -/
structure Options where
  paths : List Text
  outDir : Text
  accessor : Accessor
  excludes : List Text
  dryRun : Bool
  json : Bool
  maxFileSize : Option Text
  colour : ColourMode
  quiet : Bool
  verbosity : Nat
  deriving Repr

namespace Options

/-- An option without a value. -/
inductive Flag where
  | dryRun | json | quiet | verbose | help | version
  deriving DecidableEq, Repr

/-- An option with a value. -/
inductive Setting where
  | outDir | accessor | exclude | maxFileSize | colour
  deriving DecidableEq, Repr

/-- How a flag is shown. -/
def Flag.display : Flag → Text
  | .dryRun => lit "--dry-run"
  | .json => lit "--json"
  | .quiet => lit "--quiet"
  | .verbose => lit "--verbose..."
  | .help => lit "--help"
  | .version => lit "--version"

/-- How an option with a value is shown. -/
def Setting.display : Setting → Text
  | .outDir => lit "--out-dir <OUT_DIR>"
  | .accessor => lit "--accessor <MODULE.FUNC>"
  | .exclude => lit "--exclude <PATTERN>"
  | .maxFileSize => lit "--max-file-size <SIZE>"
  | .colour => lit "--color <WHEN>"

/-- How the paths are shown. -/
def pathsDisplay : Text := lit "<PATHS>..."

/-- An option. -/
inductive Choice where
  | flag (f : Flag)
  | setting (s : Setting)
  deriving DecidableEq, Repr

/-- The option with a word. -/
def Choice.ofWord? (t : Text) : Option Choice :=
  let words : List (String × Choice) :=
    [("out-dir", .setting .outDir), ("accessor", .setting .accessor),
      ("exclude", .setting .exclude), ("max-file-size", .setting .maxFileSize),
      ("color", .setting .colour), ("dry-run", .flag .dryRun), ("json", .flag .json),
      ("quiet", .flag .quiet), ("verbose", .flag .verbose), ("help", .flag .help),
      ("version", .flag .version)]
  (words.find? fun w => w.1.toList == t).map Prod.snd

/-- The option with a letter. -/
def Choice.ofLetter? : Char → Option Choice
  | 'o' => some (.setting .outDir)
  | 'x' => some (.setting .exclude)
  | 'n' => some (.flag .dryRun)
  | 'q' => some (.flag .quiet)
  | 'v' => some (.flag .verbose)
  | 'h' => some (.flag .help)
  | 'V' => some (.flag .version)
  | _ => none

/-- Why a command line makes no sense. -/
inductive Fault where
  | unknown (argument : Text)
  | noValue (display : Text)
  | invalidValue (value display : Text)
  | badAccessor (value : Text) (fault : Accessor.Fault)
  | repeated (display : Text)
  | uselessValue (value display : Text)
  | noPaths
  deriving DecidableEq, Repr

/-- The wording of a fault. -/
def Fault.message : Fault → Text
  | .unknown argument => lit "error: unexpected argument '" ++ argument ++ lit "' found"
  | .noValue display =>
    lit "error: a value is required for '" ++ display ++ lit "' but none was supplied"
  | .invalidValue value display =>
    lit "error: invalid value '" ++ value ++ lit "' for '" ++ display ++ lit "'"
  | .badAccessor value fault =>
    lit "error: invalid value '" ++ value ++ lit "' for '" ++ Setting.accessor.display ++
      lit "': " ++ fault.message
  | .repeated display =>
    lit "error: the argument '" ++ display ++ lit "' cannot be used multiple times"
  | .uselessValue value display =>
    lit "error: unexpected value '" ++ value ++ lit "' for '" ++ display ++
      lit "' found; no more were expected"
  | .noPaths => lit "error: the following required arguments were not provided:"

/-- Why a command line does not lead to a run. -/
inductive Stop where
  | usage (fault : Fault)
  | help
  | version
  deriving DecidableEq, Repr

/-- What has been read of a command line. -/
structure Draft where
  paths : List Text
  outDir : Option Text
  accessor : Option Accessor
  excludes : List Text
  maxFileSize : Option Text
  colour : Option ColourMode
  dryRun : Bool
  json : Bool
  quiet : Bool
  verbosity : Nat

/-- Nothing has been read. -/
def Draft.empty : Draft := ⟨[], none, none, [], none, none, false, false, false, 0⟩

/-- What is still to be looked at: an option, perhaps with its value, or paths. -/
inductive Pending where
  | nothing
  | setting (s : Setting) (value : Option Text)
  | paths (ps : List Text)

namespace Draft

/-- Takes up a value that may be given only once. -/
def once {α : Type} (old : Option α) (s : Setting) (new : Except Fault α) : Except Stop α :=
  if old.isSome then .error (.usage (.repeated s.display))
  else
    match new with
    | .ok a => .ok a
    | .error fault => .error (.usage fault)

/-- Takes up the value of an option. -/
def set (d : Draft) (s : Setting) (value : Text) : Except Stop Draft :=
  match s with
  | .outDir => do
    let v ← once d.outDir s (if value.isEmpty then .error (.noValue s.display) else .ok value)
    pure { d with outDir := some v }
  | .accessor => do
    let v ← once d.accessor s ((Accessor.parse value).mapError (.badAccessor value))
    pure { d with accessor := some v }
  | .exclude => .ok { d with excludes := d.excludes ++ [value] }
  | .maxFileSize => do
    let v ← once d.maxFileSize s (.ok value)
    pure { d with maxFileSize := some v }
  | .colour => do
    let v ← once d.colour s
      (match ColourMode.ofWord? value with
      | some mode => .ok mode
      | none =>
        .error (if value.isEmpty then .noValue s.display else .invalidValue value s.display))
    pure { d with colour := some v }

/-- Takes up a flag. -/
def raise (d : Draft) (f : Flag) : Except Stop Draft :=
  let again : Except Stop Draft := .error (.usage (.repeated f.display))
  match f with
  | .dryRun => if d.dryRun then again else .ok { d with dryRun := true }
  | .json => if d.json then again else .ok { d with json := true }
  | .quiet => if d.quiet then again else .ok { d with quiet := true }
  | .verbose => .ok { d with verbosity := d.verbosity + 1 }
  | .help => .error .help
  | .version => .error .version

/-- Takes up what was still to be looked at. -/
def settle (d : Draft) : Pending → Except Stop Draft
  | .nothing => .ok d
  | .setting s none => .error (.usage (.noValue s.display))
  | .setting s (some value) => d.set s value
  | .paths ps =>
    if ps.any List.isEmpty then .error (.usage (.noValue pathsDisplay))
    else .ok { d with paths := d.paths ++ ps }

/-- Reads an option that is written as a word, perhaps with a value after an equals sign. -/
def readWord (d : Draft) (pending : Pending) (word : Text) (value? : Option Text) :
    Except Stop (Draft × Pending) :=
  match Choice.ofWord? word with
  | none => .error (.usage (.unknown (lit "--" ++ word)))
  | some (.flag f) =>
    match value? with
    | some value => .error (.usage (.uselessValue value f.display))
    | none => do
      let d ← d.settle pending
      let d ← d.raise f
      pure (d, .nothing)
  | some (.setting s) => do
    let d ← d.settle pending
    match value? with
    | some value => do
      let d ← d.set s value
      pure (d, .nothing)
    | none => pure (d, .setting s none)

/-- Reads options that are written as letters. The rest of the argument is the value of the first
one that takes a value. -/
def readLetters (d : Draft) (pending : Pending) : Text → Except Stop (Draft × Pending)
  | [] => .ok (d, pending)
  | c :: rest =>
    match Choice.ofLetter? c with
    | none => .error (.usage (.unknown ['-', c]))
    | some (.flag f) => do
      let d ← d.settle pending
      let d ← d.raise f
      readLetters d .nothing rest
    | some (.setting s) => do
      let d ← d.settle pending
      match rest with
      | [] => pure (d, .setting s none)
      | e :: value => do
        let d ← d.set s (if e = '=' then value else e :: value)
        pure (d, .nothing)

/-- Reads a path. -/
def readPath (d : Draft) (pending : Pending) (path : Text) : Except Stop (Draft × Pending) :=
  match pending with
  | .paths ps => .ok (d, .paths (ps ++ [path]))
  | _ => do
    let d ← d.settle pending
    pure (d, .paths [path])

/-- Reads arguments. After two hyphens alone, `onlyPaths` holds. -/
def read (d : Draft) (pending : Pending) (onlyPaths : Bool) : List Text → Except Stop Draft
  | [] => d.settle pending
  | argument :: more =>
    if onlyPaths then do
      let (d, pending) ← d.readPath pending argument
      d.read pending true more
    else
      match argument with
      | ['-', '-'] => d.read pending true more
      | '-' :: '-' :: word => do
        let value? :=
          match word.dropWhile (· != '=') with
          | _ :: value => some value
          | [] => none
        let (d, pending) ← d.readWord pending (word.takeWhile (· != '=')) value?
        d.read pending false more
      | '-' :: c :: letters => do
        let (d, pending) ← d.readLetters pending (c :: letters)
        d.read pending false more
      | _ =>
        match pending with
        | .setting s none => d.read (.setting s (some argument)) false more
        | _ => do
          let (d, pending) ← d.readPath pending argument
          d.read pending false more

end Draft

/-- Reads a command line. -/
def parse (arguments : List Text) : Except Stop Options := do
  let d ← Draft.empty.read .nothing false arguments
  if d.paths.isEmpty then .error (.usage .noPaths)
  else
    pure
      { paths := d.paths
        outDir := d.outDir.getD (lit ".")
        accessor := d.accessor.getD .standard
        excludes := d.excludes
        dryRun := d.dryRun
        json := d.json
        maxFileSize := d.maxFileSize
        colour := d.colour.getD .auto
        quiet := d.quiet
        verbosity := d.verbosity }

end Options

end RouteStubs
