import RouteStubs.Inputs.IgnoreRules
import RouteStubs.Path.Companion

/-!
# Searching directory trees

The source files below a directory. Entries whose names begin with a dot are passed over unless an
ignore rule keeps them, links to directories are not followed, and the ignore rules of the directory
and of all directories above and below it are heeded. Test files do not count as sources.
-/

namespace RouteStubs.Walk

/-- A directory between the root of a search and the current directory: its ignore files, and the
names that lead from it to the current directory. -/
structure Level where
  layer : IgnoreLayer
  trail : List Text

/-- A search is within these directories: those it has entered, from the innermost to the outermost,
and those above its root. -/
structure Surroundings where
  entered : List Level
  above : List Level

/-- How the layers around a directory see an entry of it. To the directories above the root every
entry looks as if it lay right in the root. -/
def Surroundings.views (s : Surroundings) (name : Text) : List IgnoreLayer.View :=
  (s.entered ++ s.above).map fun l => ⟨l.layer, l.trail ++ [name]⟩

/-- An entry is passed over. -/
def Surroundings.skips (s : Surroundings) (name : Text) (isDirectory : Bool) : Bool :=
  match IgnoreLayer.verdict? (s.views name) isDirectory with
  | some ignored => ignored
  | none => name.head? == some '.'

/-- The surroundings in a directory that has the given name in the current one. -/
def Surroundings.enter (s : Surroundings) (layer : IgnoreLayer) (name : Text) : Surroundings :=
  { s with
    entered := ⟨layer, []⟩ :: s.entered.map fun l => { l with trail := l.trail ++ [name] } }

/-- The surroundings at the root of a search. -/
def Surroundings.atRoot (fs : FileSystem) (place : Place) : Surroundings where
  entered := [⟨IgnoreLayer.ofDirectory fs place, []⟩]
  above := (List.range place.length).reverse.map fun n =>
    ⟨IgnoreLayer.ofDirectory fs (place.take n), place.drop n⟩

/-- The paths of the entries below a directory that are no directories themselves. The number bounds
the depth. -/
def below (fs : FileSystem) : Nat → Surroundings → Text → Place → List Text
  | 0, _, _, _ => []
  | depth + 1, surroundings, path, place =>
    (fs.names place).flatMap fun name =>
      let isDirectory := fs.entry? (place ++ [name]) == some .directory
      if surroundings.skips name isDirectory then []
      else if isDirectory then
        let layer := IgnoreLayer.ofDirectory fs (place ++ [name])
        below fs depth (surroundings.enter layer name) (Path.join path name) (place ++ [name])
      else [Path.join path name]

/-- The paths below the directory that a path leads to. -/
def entries (fs : FileSystem) (root : Text) : List Text :=
  match fs.status root with
  | .ok (place, .directory) =>
    below fs (fs.entries.length + 1) (Surroundings.atRoot fs place) root place
  | _ => []

/-- A file that a search is after. -/
def isWanted (fs : FileSystem) (path : Text) : Bool :=
  fs.isFile path && Path.isSource path && !Path.isTest path

/-- The source files below the directory that a path leads to. -/
def sources (fs : FileSystem) (root : Text) : List Text :=
  (entries fs root).filter (isWanted fs)

end RouteStubs.Walk
