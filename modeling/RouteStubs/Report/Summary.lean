import RouteStubs.Text.Numeral

/-!
# Reports

The lines that a run shows: one for every test file, and one with the totals at the end. They can be
coloured with terminal codes.
-/

namespace RouteStubs

/-- The totals of a run. -/
structure Summary where
  /-- Files that were read and classified. -/
  scanned : Nat
  /-- Test files written, or to be written. -/
  written : Nat
  /-- Handlers found. -/
  handlers : Nat
  /-- Files passed over. -/
  skipped : Nat
  deriving DecidableEq, Repr, Inhabited

namespace Summary

/-- The totals before anything has happened. -/
def zero : Summary := ⟨0, 0, 0, 0⟩

/-- A file with the given number of handlers has been classified. -/
def recordScanned (s : Summary) (handlers : Nat) : Summary :=
  { s with scanned := s.scanned + 1, handlers := s.handlers + handlers }

/-- Test files have been written. -/
def addWritten (s : Summary) (n : Nat) : Summary :=
  { s with written := s.written + n }

/-- Files have been passed over. -/
def addSkipped (s : Summary) (n : Nat) : Summary :=
  { s with skipped := s.skipped + n }

end Summary

namespace Report

/-- How a stretch of text is shown. -/
inductive Style where
  | bold
  | boldGreen
  | yellow
  deriving DecidableEq, Repr

/-- The terminal codes of a style. -/
def Style.codes : Style → Text
  | .bold => lit "\x1b[0m\x1b[1m"
  | .boldGreen => lit "\x1b[0m\x1b[1m\x1b[32m"
  | .yellow => lit "\x1b[0m\x1b[33m"

/-- A text in a style. -/
def styled (coloured : Bool) (style : Style) (t : Text) : Text :=
  if coloured then style.codes ++ t ++ lit "\x1b[0m" else t

/-- A number of things. -/
def count (n : Nat) (thing : String) : Text :=
  Text.decimal n ++ ' ' :: lit thing ++ if n = 1 then [] else ['s']

/-- The line of a test file that has been written, or would have been in a dry run. -/
def writtenLine (coloured : Bool) (output : Text) (handlers : Nat) (dryRun : Bool) : Text :=
  styled coloured .boldGreen (lit (if dryRun then "would write" else "wrote")) ++
    ' ' :: output ++ lit " (" ++ count handlers "handler" ++ lit ")\n"

/-- The line with the totals. -/
def summaryLine (coloured : Bool) (s : Summary) : Text :=
  styled coloured .bold (count s.scanned "file") ++ lit " scanned, " ++
    count s.handlers "handler" ++ lit " found, " ++ count s.written "file" ++ lit " generated" ++
    (if s.skipped = 0 then []
    else lit ", " ++ styled coloured .yellow (Text.decimal s.skipped ++ lit " skipped")) ++
    ['\n']

end Report

end RouteStubs
