import RouteStubs.Inputs.Expansion
import RouteStubs.Inputs.Walk
import RouteStubs.Log.Traced

/-!
# Collecting inputs

The files that the arguments of a run stand for. A directory stands for the source files below it, a
pattern that is no existing path for what it matches, and every other path for itself, whether or
not there is such a file. Excluded names are left out of directories and of what patterns match.
-/

namespace RouteStubs.Inputs

/-- The characters that make a path a pattern. -/
def isPattern (path : Text) : Bool :=
  path.any fun c => c == '*' || c == '?' || c == '['

/-- The name of what a path leads to is excluded. -/
def isExcluded (excludes : List Wildcard) (path : Text) : Bool :=
  excludes.any fun w => w.accepts ((Path.fileName? path).getD [])

/-- Reads the patterns of excluded names. -/
def parseExcludes : List Text → Except Failure (List Wildcard)
  | [] => .ok []
  | p :: ps =>
    match Wildcard.parse p with
    | .error fault => .error (.input (.badExclude p fault))
    | .ok w => (parseExcludes ps).map (w :: ·)

/-- The source files that a directory stands for. -/
def ofDirectory (fs : FileSystem) (excludes : List Wildcard) (root : Text) : Traced (List Text) :=
  let files := Path.sort ((Walk.sources fs root).filter fun p => !isExcluded excludes p)
  do
    Traced.note (.collected root files.length)
    pure files

/-- The files that a matching path stands for. -/
def ofMatch (fs : FileSystem) (excludes : List Wildcard) (path : Text) : Traced (List Text) :=
  if fs.isDirectory path then ofDirectory fs excludes path
  else if isExcluded excludes path then pure []
  else pure [path]

/-- The files that several things stand for, one after the other. -/
def gather {α : Type} (f : α → Traced (List Text)) : List α → Traced (List Text)
  | [] => pure []
  | a :: as => do
    let first ← f a
    let others ← gather f as
    pure (first ++ others)

/-- The files that a pattern stands for. There has to be at least one. -/
def ofPattern (fs : FileSystem) (excludes : List Wildcard) (pattern : Text) :
    Traced (List Text) :=
  match Expansion.paths fs pattern with
  | .error fault => Traced.fail (.input (.badPattern pattern fault))
  | .ok paths => do
    let files ← gather (ofMatch fs excludes) paths
    if files.isEmpty then Traced.fail (.input (.noMatch pattern)) else pure (Path.sort files)

/-- The files that an argument stands for. -/
def ofArgument (fs : FileSystem) (excludes : List Wildcard) (path : Text) : Traced (List Text) :=
  if fs.isDirectory path then ofDirectory fs excludes path
  else if !fs.present path && isPattern path then ofPattern fs excludes path
  else pure [path]

/-- The files that the arguments stand for, in the order of the arguments. -/
def collect (fs : FileSystem) (arguments excludes : List Text) : Traced (List Text) := do
  let excludes ← Traced.ofExcept (parseExcludes excludes)
  gather (ofArgument fs excludes) arguments

end RouteStubs.Inputs
