import RouteStubs.FileSystem.Population
import RouteStubs.Run.Session

/-!
# The program

The command line: takes up the files below the working directory and those that the arguments name,
runs a session on them, and carries out what the session did.
-/

namespace RouteStubs.Program

/-- Takes up a file, a link, or a directory with everything in it. What cannot be read is left out.
-/
partial def load (fs : FileSystem) (entry : IO.FS.DirEntry) : IO FileSystem := do
  let path := entry.path
  let name := path.toString.toList
  try
    match (← path.symlinkMetadata).type with
    | .dir => (← path.readDir).foldlM load (fs.makeDirectories name)
    | .symlink => return fs.putLink name (← IO.FS.realPath path).toString.toList
    | .file => return fs.putFile name (← IO.FS.readBinFile path).toList
    | .other => return fs
  catch _ => return fs

/-- The files that a run can see. -/
def surroundings (arguments : List String) : IO FileSystem := do
  let here ← IO.currentDir
  let directory := here.toString.toList
  let start : FileSystem := { entries := [], workingDirectory := Path.parts directory }
  let entries : List IO.FS.DirEntry := ("." :: arguments).map fun name => ⟨here, name⟩
  entries.foldlM load (start.makeDirectories directory)

/-- The environment of a run. -/
def environment : IO Environment := do
  let lookUp (name : String) : IO (Option Text) :=
    return (← IO.getEnv name).map String.toList
  return {
    noColour := ← lookUp "NO_COLOR"
    forceColour := ← lookUp "FORCE_COLOR"
    terminal := ← lookUp "TERM"
    logFilter := ← lookUp "RUST_LOG"
    outputWorks := true
    outputIsTerminal := ← (← IO.getStdout).isTty }

/-- Writes the files that differ between two file systems. -/
def save (before after : FileSystem) : IO Unit := do
  let seenFromRoot (fs : FileSystem) : FileSystem := { fs with workingDirectory := [] }
  for (path, content) in FileSystem.changes (seenFromRoot before) (seenFromRoot after) do
    IO.FS.writeBinFile (String.ofList ('/' :: path)) ⟨content.toArray⟩

end RouteStubs.Program

open RouteStubs in
/-- Runs a session with the given arguments. -/
def main (arguments : List String) : IO UInt32 := do
  let fs ← Program.surroundings arguments
  let env ← Program.environment
  let ending := Session.run env (arguments.map String.toList) fs
  Program.save fs ending.session.fs
  IO.eprint (String.ofList (ending.errorText env))
  IO.print (String.ofList ending.session.output)
  return UInt32.ofNat ending.status
