import RouteStubs.Text.Basic

/-!
# Paths

A path is a text whose components are separated by slashes. Repeated slashes, slashes at the end and
components `.` do not count, except for a component `.` with which a path begins. Paths are compared
by their components.
-/

namespace RouteStubs.Path

/-- A component of a path. -/
inductive Component where
  | root
  | current
  | parent
  | normal (name : Text)
  deriving DecidableEq, Repr

/-- The component that a part between slashes stands for. -/
def Component.ofPart (part : Text) : Component :=
  if part = ['.', '.'] then .parent else .normal part

/-- The path begins at the root. -/
def isAbsolute (p : Text) : Bool :=
  p.head? == some '/'

/-- The parts of a path between slashes that are not empty. -/
def parts (p : Text) : List Text :=
  (p.splitOn '/').filter fun part => !part.isEmpty

/-- The components of a path. -/
def components (p : Text) : List Component :=
  let others (ps : List Text) : List Component :=
    (ps.filter fun part => part != ['.']).map Component.ofPart
  if isAbsolute p then .root :: others (parts p)
  else if (parts p).head? == some ['.'] then .current :: others (parts p)
  else others (parts p)

/-- The name of the file or directory that a path leads to. A path that ends with `..` has none. -/
def fileName? (p : Text) : Option Text :=
  match (components p).getLast? with
  | some (.normal name) => some name
  | _ => none

/-- What stands before and after the last dot of a text. -/
def splitAtLastDot? (t : Text) : Option (Text × Text) :=
  match t.reverse.dropWhile (· != '.') with
  | _ :: before => some (before.reverse, (t.reverse.takeWhile (· != '.')).reverse)
  | [] => none

/-- The stem and the extension of a file name. A name that begins with its only dot has no
extension. -/
def splitExtension (name : Text) : Text × Option Text :=
  match splitAtLastDot? name with
  | none => (name, none)
  | some ([], _) => (name, none)
  | some (stem, extension) => (stem, some extension)

/-- The extension of the file that a path leads to. -/
def extension? (p : Text) : Option Text :=
  (fileName? p).bind fun name => (splitExtension name).2

/-- The name of the file that a path leads to, without its extension. -/
def stem? (p : Text) : Option Text :=
  (fileName? p).map fun name => (splitExtension name).1

/-- The path of `p` as seen from `base`. -/
def join (base p : Text) : Text :=
  if isAbsolute p then p
  else if base.isEmpty || base.getLast? == some '/' then base ++ p
  else base ++ '/' :: p

/-! ## Order -/

/-- The rank of a component among others, and its name. -/
def Component.key : Component → List Nat
  | .root => [0]
  | .current => [1]
  | .parent => [2]
  | .normal name => 3 :: name.map Char.toNat

/-- What decides the place of a path among others. -/
def key (p : Text) : List (List Nat) :=
  (components p).map Component.key

/-- The path `p` comes before `q`, or has the same components. -/
def le (p q : Text) : Bool :=
  (compare (key p) (key q)).isLE

/-- The paths in ascending order. -/
def sort (ps : List Text) : List Text :=
  ps.mergeSort le

end RouteStubs.Path
