import RouteStubs.Path.Basic
import RouteStubs.Text.Utf8

/-!
# File systems

A file system as a value: what stands at every place, and the directory from which paths that are
not absolute are followed. A place is the list of names that leads to it from the root. Besides
files and directories there are symbolic links, and a device on which every write fails for want of
space. Files, too, can be limited in what they take: a file that is written is first emptied, and
then it is filled as far as there is room.
-/

namespace RouteStubs

/-- The names that lead to a place from the root. -/
abbrev Place : Type := List Text

/-- What can stand at a place. -/
inductive Entry where
  | directory
  | file (content : List UInt8)
  | link (target : Text)
  | fullDevice
  deriving DecidableEq, Repr, Inhabited

/-- The size of an entry in bytes. A directory takes up one block. -/
def Entry.size : Entry → Nat
  | .file content => content.length
  | .directory => 4096
  | .link target => Text.byteLength target
  | .fullDevice => 0

/-- Why an operation on files fails. -/
inductive SystemError where
  | notFound
  | notDirectory
  | isDirectory
  | noSpace
  | nameTooLong
  | tooManyLinks
  | notText
  | nulInPath
  deriving DecidableEq, Repr, Inhabited

/-- The wording of an error. -/
def SystemError.message : SystemError → Text
  | .notFound => lit "No such file or directory (os error 2)"
  | .notDirectory => lit "Not a directory (os error 20)"
  | .isDirectory => lit "Is a directory (os error 21)"
  | .noSpace => lit "No space left on device (os error 28)"
  | .nameTooLong => lit "File name too long (os error 36)"
  | .tooManyLinks => lit "Too many levels of symbolic links (os error 40)"
  | .notText => lit "stream did not contain valid UTF-8"
  | .nulInPath => lit "file name contained an unexpected NUL byte"

/-- A file system. -/
structure FileSystem where
  /-- What stands where, each place at most once. The root is a directory and need not be listed. -/
  entries : List (Place × Entry)
  workingDirectory : Place
  /-- How many bytes an empty file at a place can take while the given entries stand where they do,
  if there is a limit. -/
  room? : List (Place × Entry) → Place → Option Nat := fun _ _ => none

namespace FileSystem

/-- What stands at a place. -/
def entry? (fs : FileSystem) (place : Place) : Option Entry :=
  if place = [] then some .directory else fs.entries.lookup place

/-- Puts an entry at a place, whatever stood there. -/
def insert (fs : FileSystem) (place : Place) (e : Entry) : FileSystem :=
  { fs with
    entries :=
      if (fs.entries.lookup place).isSome then
        fs.entries.map fun old => if old.1 = place then (place, e) else old
      else fs.entries ++ [(place, e)] }

/-- The names in the directory at a place. -/
def names (fs : FileSystem) (directory : Place) : List Text :=
  fs.entries.filterMap fun (place, _) =>
    match place.getLast? with
    | some name => if place.dropLast = directory then some name else none
    | none => none

/-! ## Following paths -/

/-- The longest name in bytes. -/
def maxName : Nat := 255

/-- The longest path in bytes. -/
def maxPath : Nat := 4095

/-- The most links that are followed on the way to a place. -/
def maxLinks : Nat := 40

/-- Where a path leads: to an entry, or to a place where none is but one could be created. -/
inductive Target where
  | occupied (place : Place) (e : Entry)
  | vacant (place : Place)
  deriving DecidableEq, Repr

/-- The steps of a path. A slash at the end is a step to the directory itself, so that a path with
one cannot lead to a file. -/
def steps (p : Text) : List Text :=
  Path.parts p ++ if p.getLast? == some '/' then [['.']] else []

/-- Where a path begins, from a directory. -/
def origin (directory : Place) (p : Text) : Place :=
  if Path.isAbsolute p then [] else directory

/-- Follows steps from a directory. A link is followed unless it is the last step and
`followLast` does not hold; `links` is the number of links that may still be followed. -/
def walk (fs : FileSystem) (followLast : Bool) (links : Nat) (here : Place) :
    List Text → Except SystemError Target
  | [] => .ok (.occupied here .directory)
  | step :: more =>
    if step = ['.'] then walk fs followLast links here more
    else if step = ['.', '.'] then walk fs followLast links here.dropLast more
    else if maxName < Text.byteLength step then .error .nameTooLong
    else
      let place := here ++ [step]
      match fs.entry? place with
      | none => if more.isEmpty then .ok (.vacant place) else .error .notFound
      | some .directory => walk fs followLast links place more
      | some (.link target) =>
        if more.isEmpty && !followLast then .ok (.occupied place (.link target))
        else
          match links with
          | 0 => .error .tooManyLinks
          | links + 1 =>
            walk fs followLast links (origin here target) (steps target ++ more)
      | some e => if more.isEmpty then .ok (.occupied place e) else .error .notDirectory
termination_by steps => (links, steps.length)

/-- Where a path leads. -/
def resolve (fs : FileSystem) (followLast : Bool) (p : Text) : Except SystemError Target :=
  if p.contains '\x00' then .error .nulInPath
  else if p.isEmpty then .error .notFound
  else if maxPath < Text.byteLength p then .error .nameTooLong
  else fs.walk followLast maxLinks (origin fs.workingDirectory p) (steps p)

/-! ## Questions -/

/-- The place that a path leads to, and what stands there. -/
def status (fs : FileSystem) (p : Text) : Except SystemError (Place × Entry) :=
  match fs.resolve true p with
  | .ok (.occupied place e) => .ok (place, e)
  | .ok (.vacant _) => .error .notFound
  | .error e => .error e

/-- What a path leads to exists. -/
def present (fs : FileSystem) (p : Text) : Bool :=
  (fs.status p).toBool

/-- What a path leads to exists; a link counts as such, wherever it leads. -/
def linkPresent (fs : FileSystem) (p : Text) : Bool :=
  match fs.resolve false p with
  | .ok (.occupied _ _) => true
  | _ => false

/-- The path leads to a directory. -/
def isDirectory (fs : FileSystem) (p : Text) : Bool :=
  match fs.status p with
  | .ok (_, .directory) => true
  | _ => false

/-- The path leads to a file. -/
def isFile (fs : FileSystem) (p : Text) : Bool :=
  match fs.status p with
  | .ok (_, .file _) => true
  | _ => false

/-- The bytes of the file that a path leads to. -/
def read (fs : FileSystem) (p : Text) : Except SystemError (List UInt8) :=
  match fs.status p with
  | .ok (_, .file content) => .ok content
  | .ok (_, .directory) => .error .isDirectory
  | .ok _ => .ok []
  | .error e => .error e

/-- The text of the file that a path leads to. -/
def readText (fs : FileSystem) (p : Text) : Except SystemError Text := do
  let content ← fs.read p
  match Text.decode? content with
  | some t => .ok t
  | none => .error .notText

/-! ## Changes -/

/-- Opens the file that a path leads to, so that it can be written anew: what it held is lost. A
file is created if there is none. The result is the place of the file, and the file system with
it. -/
def create (fs : FileSystem) (p : Text) : Except SystemError (Place × FileSystem) :=
  match fs.resolve true p with
  | .error e => .error e
  | .ok (.vacant place) => .ok (place, fs.insert place (.file []))
  | .ok (.occupied _ .directory) => .error .isDirectory
  | .ok (.occupied place .fullDevice) => .ok (place, fs)
  | .ok (.occupied place _) => .ok (place, fs.insert place (.file []))

/-- How many bytes what has been opened at a place can take, if there is a limit. -/
def roomAt? (fs : FileSystem) (place : Place) : Option Nat :=
  match fs.entry? place with
  | some .fullDevice => some 0
  | _ => fs.room? fs.entries place

/-- The file system in which what has been opened at a place has taken the given bytes. A device
keeps nothing. -/
def fill (fs : FileSystem) (place : Place) (content : List UInt8) : FileSystem :=
  match fs.entry? place with
  | some .fullDevice => fs
  | _ => fs.insert place (.file content)

end FileSystem

end RouteStubs
