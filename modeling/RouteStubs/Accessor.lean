import RouteStubs.Text.Letter
import RouteStubs.Text.Space

/-!
# Accessors

A handler reads its route variables from a map, and the accessor is the function that returns this
map: a module and one of its functions, written with a dot between them.
-/

namespace RouteStubs

/-- The function that returns the route variables of a request. -/
structure Accessor where
  module : Text
  function : Text
  deriving DecidableEq, Repr

namespace Accessor

/-- The accessor that is used unless another one is chosen. -/
def standard : Accessor := ⟨lit "mux", lit "Vars"⟩

instance : Inhabited Accessor := ⟨standard⟩

/-- Why a text is no accessor. -/
inductive Fault where
  | noDot (text : Text)
  | notIdentifier (part : Text)
  deriving DecidableEq, Repr

/-- The wording of a fault. -/
def Fault.message : Fault → Text
  | .noDot text => lit "expected MODULE.FUNC, got '" ++ text ++ lit "'"
  | .notIdentifier part => lit "'" ++ part ++ lit "' is not a Go identifier"

/-- A name: a letter or an underscore, then letters, numerals and underscores. -/
def isName : Text → Bool
  | [] => false
  | c :: t =>
    (Text.isLetter c || c == '_') &&
      t.all fun d => Text.isLetter d || Text.isNumeral d || d == '_'

/-- What stands before and after the first dot. -/
def splitAtDot? (t : Text) : Option (Text × Text) :=
  match t.dropWhile (· != '.') with
  | _ :: after => some (t.takeWhile (· != '.'), after)
  | [] => none

/-- Reads an accessor. White space around it does not count. -/
def parse (t : Text) : Except Fault Accessor :=
  match splitAtDot? (Text.trim t) with
  | none => .error (.noDot t)
  | some (module, function) =>
    if !isName module then .error (.notIdentifier module)
    else if !isName function then .error (.notIdentifier function)
    else .ok ⟨module, function⟩

/-- The written form of an accessor. -/
def display (a : Accessor) : Text :=
  a.module ++ '.' :: a.function

end Accessor

end RouteStubs
