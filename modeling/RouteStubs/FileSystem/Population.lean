import RouteStubs.FileSystem.Basic

/-!
# Populating file systems

Building up a file system from nothing, and listing the files in it.
-/

namespace RouteStubs.FileSystem

/-- A file system whose working directory is empty. -/
def fresh : FileSystem where
  entries := [([lit "dev"], .directory), ([lit "dev", lit "full"], .fullDevice),
    ([lit "work"], .directory)]
  workingDirectory := [lit "work"]

/-- The file system with a directory at the end of the given path, if nothing is there yet. -/
def makeDirectory (fs : FileSystem) (p : Text) : FileSystem :=
  match fs.resolve true p with
  | .ok (.vacant place) => fs.insert place .directory
  | _ => fs

/-- The paths from the first part of a path to the whole. -/
def stages (p : Text) : List Text :=
  let start := if Path.isAbsolute p then ['/'] else []
  (List.range (Path.parts p).length).map fun n =>
    start ++ List.intercalate ['/'] ((Path.parts p).take (n + 1))

/-- The file system with all directories on the way of a path, and one at its end. -/
def makeDirectories (fs : FileSystem) (p : Text) : FileSystem :=
  (stages p).foldl makeDirectory fs

/-- The file system with all directories on the way of a path. -/
def makeParents (fs : FileSystem) (p : Text) : FileSystem :=
  (stages p).dropLast.foldl makeDirectory fs

/-- The file system with a file at the end of a path. -/
def putFile (fs : FileSystem) (p : Text) (content : List UInt8) : FileSystem :=
  let fs := fs.makeParents p
  match fs.create p with
  | .ok (place, fs) => fs.fill place content
  | .error _ => fs

/-- The file system with a link at the end of a path, if nothing is there yet. -/
def putLink (fs : FileSystem) (p target : Text) : FileSystem :=
  let fs := fs.makeParents p
  match fs.resolve false p with
  | .ok (.vacant place) => fs.insert place (.link target)
  | _ => fs

/-- The path of a place below a directory, as seen from there. -/
def relativePath? (directory place : Place) : Option Text :=
  if directory.isPrefixOf place && directory.length < place.length then
    some (List.intercalate ['/'] (place.drop directory.length))
  else none

/-- The files below the working directory with their contents, in the order of their paths. -/
def files (fs : FileSystem) : List (Text × List UInt8) :=
  let found := fs.entries.filterMap fun (place, e) =>
    match e with
    | .file content => (relativePath? fs.workingDirectory place).map (·, content)
    | _ => none
  found.mergeSort fun a b => (compare (a.1.map Char.toNat) (b.1.map Char.toNat)).isLE

/-- The files that are new in `after`, or whose contents differ from those in `before`. -/
def changes (before after : FileSystem) : List (Text × List UInt8) :=
  let old := before.files
  after.files.filter fun f => old.lookup f.1 != some f.2

end RouteStubs.FileSystem
