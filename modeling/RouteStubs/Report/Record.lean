import RouteStubs.Handler.Basic
import RouteStubs.Text.Numeral

/-!
# Records

The handlers of a file as one line of JSON. Strings are escaped as little as the format allows.
-/

namespace RouteStubs.Record

/-- A character in a JSON string. -/
def escapeChar (c : Char) : Text :=
  if c = '"' then lit "\\\""
  else if c = '\\' then lit "\\\\"
  else if c = '\x08' then lit "\\b"
  else if c = '\x0c' then lit "\\f"
  else if c = '\n' then lit "\\n"
  else if c = '\r' then lit "\\r"
  else if c = '\t' then lit "\\t"
  else if c.toNat < 0x20 then lit "\\u" ++ Text.hexadecimal 4 c.toNat
  else [c]

/-- A JSON string. -/
def string (t : Text) : Text :=
  '"' :: t.flatMap escapeChar ++ ['"']

/-- A JSON array. -/
def array (items : List Text) : Text :=
  '[' :: List.intercalate [','] items ++ [']']

/-- A JSON object. -/
def object (members : List (Text × Text)) : Text :=
  '\x7b' :: List.intercalate [','] (members.map fun m => string m.1 ++ ':' :: m.2) ++ ['\x7d']

/-- A handler as a JSON object. -/
def ofHandler (h : Handler) : Text :=
  object [(lit "name", string h.name),
    (lit "route_variables", array (h.routeVariables.map string))]

/-- The line of a file. -/
def line (source : Text) (c : Classification) : Text :=
  object [(lit "source", string source), (lit "package_name", string c.package),
    (lit "handlers", array (c.handlers.map ofHandler))] ++ ['\n']

end RouteStubs.Record
