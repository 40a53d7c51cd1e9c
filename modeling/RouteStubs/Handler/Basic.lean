import RouteStubs.Text.Basic

/-!
# Handlers

What is known about the handlers of one source file: the functions of the file that serve requests,
in the order of their declarations, each with the route variables it reads.
-/

namespace RouteStubs

/-- A function that serves requests. -/
structure Handler where
  name : Text
  /-- The keys of the route variables that the body reads, in the order of the reads. A key that is
  read twice is listed twice. -/
  routeVariables : List Text
  deriving DecidableEq, Repr, Inhabited

/-- The handlers of one source file. -/
structure Classification where
  package : Text
  handlers : List Handler
  deriving DecidableEq, Repr, Inhabited

namespace Classification

/-- The file has no handlers. -/
def isEmpty (c : Classification) : Bool :=
  c.handlers.isEmpty

/-- The names of the handlers. -/
def handlerNames (c : Classification) : List Text :=
  c.handlers.map Handler.name

/-- The route variables of the file as a whole are those of its last handler. -/
def routeVariables (c : Classification) : List Text :=
  (c.handlers.getLast?.map Handler.routeVariables).getD []

end Classification

end RouteStubs
