import RouteStubs.Handler.Basic
import RouteStubs.Handler.RouteVariables
import RouteStubs.Syntax.SourceFile

/-!
# Classification of functions

A top-level function is a handler by the shape of its parameters: one of them is a `ResponseWriter`
of some package, and one is a pointer to `http.Request`. The order of the parameters does not
matter, nor do further ones. Nothing is resolved: an alias of either type is not recognised, and a
type of the same name from another package is a `ResponseWriter` as well.
-/

namespace RouteStubs

open Syntax

namespace Signature

/-- A name that a package qualifies. -/
structure Qualified where
  package : Text
  name : Text
  deriving DecidableEq, Repr

/-- The parts of a qualified type. -/
def qualified? (type : Node) : Option Qualified :=
  if type.kind = .qualifiedType then
    match type.child? .package, type.child? .name with
    | some package, some name => some ⟨package.text, name.text⟩
    | _, _ => none
  else none

/-- The type of the value to which a handler writes its response. -/
def isWriter (type : Node) : Bool :=
  (qualified? type).any fun q => q.name = lit "ResponseWriter"

/-- The type of a handler's request. -/
def isRequest (type : Node) : Bool :=
  type.kind == .pointerType &&
    (type.children.head?.bind qualified?).any fun q =>
      q.package = lit "http" && q.name = lit "Request"

/-- The types of the parameters of a function, those of variadic parameters apart. -/
def parameterTypes (function : Node) : List Node :=
  match function.child? .parameters with
  | none => []
  | some parameters =>
    (parameters.children.filter fun p => p.kind == .parameterDeclaration).filterMap
      fun p => p.child? .type

/-- The function has the parameters of a handler. -/
def isHandler (function : Node) : Bool :=
  (parameterTypes function).any isWriter && (parameterTypes function).any isRequest

end Signature

/-- What the classification finds about a top-level function. -/
inductive Verdict where
  | handler (h : Handler)
  | noHandler (name : Text)
  deriving DecidableEq, Repr

namespace Verdict

/-- The handler, if the function is one. -/
def handler? : Verdict → Option Handler
  | .handler h => some h
  | .noHandler _ => none

/-- The verdict on a node at the top level of a file, if it is a function. -/
def of? (a : Accessor) (declaration : Node) : Option Verdict :=
  if declaration.kind = .functionDeclaration then
    (declaration.child? .name).map fun name =>
      if Signature.isHandler declaration then
        .handler ⟨name.text, ((declaration.child? .body).map (RouteVariables.ofBody a)).getD []⟩
      else .noHandler name.text
  else none

end Verdict

namespace Classification

/-- The verdicts on the functions of a file, in the order of their declarations. -/
def verdicts (a : Accessor) (f : SourceFile) : List Verdict :=
  f.root.children.filterMap (Verdict.of? a)

/-- The handlers of a file. -/
def ofFile (a : Accessor) (f : SourceFile) : Classification :=
  ⟨f.package, (verdicts a f).filterMap Verdict.handler?⟩

/-- The handlers of a source text. -/
def ofSource (a : Accessor) (t : Text) : Except Fault Classification :=
  (SourceFile.parse t).map (ofFile a)

end Classification

end RouteStubs
