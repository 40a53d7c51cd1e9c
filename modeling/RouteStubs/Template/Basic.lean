import RouteStubs.Text.Basic

/-!
# Templates

A template is text with fields in it. A field stands for something that is known about a source
file; a section is repeated for every handler of the file, and the fields in it stand for what is
known about that handler. Sections are not nested. Which fields may stand where is part of the
types.
-/

namespace RouteStubs

namespace Template

/-- What can be told about a source file. -/
inductive FileField where
  | source | package | accessor | handlerNames | handlerCount | routeVariables
  deriving DecidableEq, Repr

/-- What can be told about a handler. -/
inductive HandlerField where
  | name | index | routeVariables
  deriving DecidableEq, Repr

/-- The name by which a template refers to a field of files. -/
def FileField.tag : FileField → Text
  | .source => lit "source"
  | .package => lit "package"
  | .accessor => lit "accessor"
  | .handlerNames => lit "handler_names"
  | .handlerCount => lit "handler_count"
  | .routeVariables => lit "route_variables"

/-- All fields of files. -/
def FileField.all : List FileField :=
  [.source, .package, .accessor, .handlerNames, .handlerCount, .routeVariables]

/-- The field of files with the given name. -/
def FileField.ofName? (t : Text) : Option FileField :=
  FileField.all.find? fun f => f.tag == t

/-- The name by which a template refers to a field of handlers. -/
def HandlerField.tag : HandlerField → Text
  | .name => lit "name"
  | .index => lit "index"
  | .routeVariables => lit "route_variables"

/-- All fields of handlers. -/
def HandlerField.all : List HandlerField :=
  [.name, .index, .routeVariables]

/-- The field of handlers with the given name. -/
def HandlerField.ofName? (t : Text) : Option HandlerField :=
  HandlerField.all.find? fun f => f.tag == t

/-- A part of a section. -/
inductive HandlerSegment where
  | text (t : Text)
  | field (f : HandlerField)
  deriving DecidableEq, Repr

/-- A part of a template. -/
inductive Segment where
  | text (t : Text)
  | field (f : FileField)
  | handlers (body : List HandlerSegment)
  deriving DecidableEq, Repr

end Template

/-- A template is a sequence of segments. -/
abbrev Template : Type := List Template.Segment

end RouteStubs
