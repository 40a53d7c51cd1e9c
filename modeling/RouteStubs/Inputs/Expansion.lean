import RouteStubs.FileSystem.Basic
import RouteStubs.Inputs.Wildcard

/-!
# Expansion of patterns

The paths in a file system that match a pattern. The pattern is matched component by component, from
the working directory or from the root.
-/

namespace RouteStubs.Expansion

/-- The patterns of the components of a path pattern. A slash at the end begins no component. -/
def componentTexts (t : Text) : List Text :=
  let parts := t.splitOn '/'
  if parts.getLast? == some [] then parts.dropLast else parts

/-- The path of a name in a directory. The working directory is left out. -/
def below (directory name : Text) : Text :=
  if Path.components directory = [.current] then name else Path.join directory name

/-- The names in the directory that a path leads to, in ascending order. -/
def namesIn (fs : FileSystem) (directory : Text) : List Text :=
  match fs.status directory with
  | .ok (place, .directory) =>
    (fs.names place).mergeSort fun a b => (compare (a.map Char.toNat) (b.map Char.toNat)).isLE
  | _ => []

/-- The ways from a path along patterns. The number bounds the depth. -/
def follow (fs : FileSystem) (onlyDirectories : Bool) :
    Nat → List Wildcard → Text → List Text
  | 0, _, _ => []
  | _, [], path => if onlyDirectories && !fs.isDirectory path then [] else [path]
  | depth + 1, w :: ws, path =>
    match w.literal? with
    | some name =>
      let next := below path name
      let reachable :=
        if name = ['.'] ∨ name = ['.', '.'] then fs.isDirectory path
        else fs.present next || fs.linkPresent next
      if reachable then follow fs onlyDirectories depth ws next else []
    | none =>
      let visit (name : Text) : List Text :=
        let child := below path name
        if w.spansDirectories then
          let others := ws.dropWhile Wildcard.spansDirectories
          let isDirectory := fs.isDirectory child
          let here :=
            match others with
            | [] => if isDirectory then [child] else []
            | v :: vs => if v.accepts name then follow fs onlyDirectories depth vs child else []
          here ++
            if isDirectory then follow fs onlyDirectories depth (w :: others) child else []
        else if w.accepts name then follow fs onlyDirectories depth ws child
        else []
      -- Only a pattern that begins with a dot leads to a directory itself or to the one above it.
      let dotted : List Text :=
        if w.tokens.head? == some (.char '.') && fs.isDirectory path then
          [['.', '.'], ['.']].filter w.accepts
        else []
      (dotted.flatMap fun name => follow fs onlyDirectories depth ws (Path.join path name)) ++
        (namesIn fs path).flatMap visit

/-- The paths that match a pattern. -/
def paths (fs : FileSystem) (pattern : Text) : Except Wildcard.Fault (List Text) := do
  let _ ← Wildcard.parse pattern
  let root := Path.isAbsolute pattern
  let texts := componentTexts (if root then pattern.tail else pattern)
  let patterns ← texts.mapM Wildcard.parse
  let depth := patterns.length + FileSystem.maxPath + 2
  .ok (follow fs (pattern.getLast? == some '/') depth patterns (if root then ['/'] else ['.']))

end RouteStubs.Expansion
