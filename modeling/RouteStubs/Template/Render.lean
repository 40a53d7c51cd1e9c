import RouteStubs.Accessor
import RouteStubs.Handler.Basic
import RouteStubs.Syntax.StringLiteral
import RouteStubs.Template.Basic

/-!
# Filling templates

Filling a template yields a sequence of texts that are written one after the other; the result is
all of them together. Lists are written as literals of the language, with every member quoted.
-/

namespace RouteStubs.Template

/-- What is known about a source file. -/
structure Context where
  source : Text
  package : Text
  accessor : Text
  handlerNames : List Text
  routeVariables : List Text
  handlers : List Handler
  deriving Repr

/-- What is known about a file once its handlers have been found. -/
def Context.ofClassification (c : Classification) (source : Text) (a : Accessor) : Context where
  source := source
  package := c.package
  accessor := a.display
  handlerNames := c.handlerNames
  routeVariables := c.routeVariables
  handlers := c.handlers

/-- The texts that write a list of strings down. -/
def listWrites (items : List Text) : List Text :=
  lit "[]string\x7b" :: (items.map Syntax.StringLiteral.quote).intersperse (lit ", ") ++
    [lit "\x7d"]

/-- The texts that a field of the file stands for. -/
def FileField.writes (ctx : Context) : FileField → List Text
  | .source => [ctx.source]
  | .package => [ctx.package]
  | .accessor => [ctx.accessor]
  | .handlerNames => listWrites ctx.handlerNames
  | .handlerCount => [Text.decimal ctx.handlers.length]
  | .routeVariables => listWrites ctx.routeVariables

/-- The texts that a field of the handler with the given number stands for. -/
def HandlerField.writes (h : Handler) (index : Nat) : HandlerField → List Text
  | .name => [h.name]
  | .index => [Text.decimal index]
  | .routeVariables => listWrites h.routeVariables

/-- The texts that a part of a section stands for. -/
def HandlerSegment.writes (h : Handler) (index : Nat) : HandlerSegment → List Text
  | .text t => [t]
  | .field f => f.writes h index

/-- The texts that a part of a template stands for. -/
def Segment.writes (ctx : Context) : Segment → List Text
  | .text t => [t]
  | .field f => f.writes ctx
  | .handlers body =>
    ctx.handlers.zipIdx.flatMap fun (h, index) => body.flatMap (HandlerSegment.writes h index)

/-- The texts that are written when a template is filled. -/
def writes (ctx : Context) (t : Template) : List Text :=
  t.flatMap (Segment.writes ctx)

/-- The filled template. -/
def render (ctx : Context) (t : Template) : Text :=
  (writes ctx t).flatten

end RouteStubs.Template
