/-!
# Texts

A text is a list of characters. Everything this library reads and writes is a text; bytes appear
only where files do.
-/

namespace RouteStubs

/-- A text is a list of characters. -/
abbrev Text : Type := List Char

/-- The characters of a string constant. -/
abbrev lit (s : String) : Text := s.toList

end RouteStubs
