import RouteStubs.Accessor
import RouteStubs.Handler.Basic
import RouteStubs.Text.Numeral
import RouteStubs.Text.Visible

/-!
# Events

What happens during a run, as it appears in the log. An event has a level, the part of the program
that it comes from, a message, and named values.
-/

namespace RouteStubs

/-- How much an event matters, from the least to the most. -/
inductive Level where
  | trace | debug | info | warn | error
  deriving DecidableEq, Repr

/-- The rank of a level; the more it matters, the lower it is. -/
def Level.rank : Level → Nat
  | .error => 1
  | .warn => 2
  | .info => 3
  | .debug => 4
  | .trace => 5

/-- The name of a level in the log, as wide as that of every other. -/
def Level.label : Level → Text
  | .trace => lit "TRACE"
  | .debug => lit "DEBUG"
  | .info => lit " INFO"
  | .warn => lit " WARN"
  | .error => lit "ERROR"

/-- The colour of a level, as the number of a terminal code. -/
def Level.colour : Level → Text
  | .trace => lit "35"
  | .debug => lit "34"
  | .info => lit "32"
  | .warn => lit "33"
  | .error => lit "31"

/-- Something that happens during a run. -/
inductive Event where
  | collected (root : Text) (count : Nat)
  | notHandler (function : Text)
  | matched (handler : Handler) (accessor : Accessor)
  | classified (source package : Text) (handlers : Nat)
  | wrote (output : Text) (handlers : Nat)
  | skipped (source : Text)
  deriving DecidableEq, Repr

namespace Event

/-- The level of an event. -/
def level : Event → Level
  | .collected _ _ | .notHandler _ | .matched _ _ | .classified _ _ _ => .debug
  | .wrote _ _ => .info
  | .skipped _ => .warn

/-- The part of the program that an event comes from. -/
def origin : Event → Text
  | .collected _ _ => lit "handlerstub::inputs"
  | .notHandler _ | .matched _ _ => lit "handlerstub::matcher"
  | .classified _ _ _ => lit "handlerstub::generator"
  | .wrote _ _ => lit "handlerstub::output::writer"
  | .skipped _ => lit "handlerstub"

/-- The message of an event. -/
def message : Event → Text
  | .collected _ _ => lit "collected go files"
  | .notHandler _ => lit "not handler-shaped"
  | .matched _ _ => lit "matched handler"
  | .classified _ _ _ => lit "classified"
  | .wrote _ _ => lit "wrote test stub"
  | .skipped _ => lit "file skipped"

/-- A character as it is shown in a quoted value. -/
def showChar (c : Char) : Text :=
  if c = '"' then lit "\\\""
  else if c = '\\' then lit "\\\\"
  else if c = '\n' then lit "\\n"
  else if c = '\r' then lit "\\r"
  else if c = '\t' then lit "\\t"
  else if c = '\x00' then lit "\\0"
  else if Text.isVisible c then [c]
  else lit "\\u\x7b" ++ Text.hexadecimal 1 c.toNat ++ lit "\x7d"

/-- A quoted value. -/
def showText (t : Text) : Text :=
  '"' :: t.flatMap showChar ++ ['"']

/-- A list of quoted values. -/
def showTexts (ts : List Text) : Text :=
  '[' :: List.intercalate (lit ", ") (ts.map showText) ++ [']']

/-- The named values of an event, in order. -/
def fields : Event → List (Text × Text)
  | .collected root count => [(lit "root", root), (lit "count", Text.decimal count)]
  | .notHandler function => [(lit "function", showText function)]
  | .matched handler accessor =>
    [(lit "function", showText handler.name), (lit "extractor", showText (lit "route-vars")),
      (lit "accessor", accessor.display),
      (lit "route_variables", showTexts handler.routeVariables)]
  | .classified source package handlers =>
    [(lit "source", source), (lit "package", package), (lit "handlers", Text.decimal handlers)]
  | .wrote output handlers => [(lit "output", output), (lit "handlers", Text.decimal handlers)]
  | .skipped source => [(lit "source", source)]

/-- Text between a terminal code and the one that ends its effect. -/
def styled (coloured : Bool) (code t : Text) : Text :=
  if coloured then lit "\x1b[" ++ code ++ lit "m" ++ t ++ lit "\x1b[0m" else t

/-- The line of an event in the log. -/
def line (coloured : Bool) (e : Event) : Text :=
  let field (f : Text × Text) : Text :=
    ' ' :: styled coloured ['3'] f.1 ++ styled coloured ['2'] ['='] ++ f.2
  styled coloured e.level.colour e.level.label ++ ' ' :: e.message ++ e.fields.flatMap field ++
    ['\n']

end Event

end RouteStubs
