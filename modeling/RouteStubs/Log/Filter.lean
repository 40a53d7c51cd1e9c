import RouteStubs.Log.Event

/-!
# Log filters

Which events are shown. A filter is a list of directives; each names the beginning of an origin and
the least level that is shown for it. For an event the directive with the longest such beginning
counts, and an event that no directive is about is not shown.
-/

namespace RouteStubs

/-- Events whose origin begins with `origin` are shown up to the given rank. -/
structure Directive where
  origin : Text
  rank : Nat
  deriving DecidableEq, Repr

/-- A filter. -/
abbrev LogFilter : Type := List Directive

namespace LogFilter

/-- The filter that is used unless another one is given; `verbosity` counts how often more was asked
for. -/
def ofVerbosity (verbosity : Nat) : LogFilter :=
  let level : Level := if verbosity = 0 then .warn else if verbosity = 1 then .info else .debug
  [⟨lit "handlerstub", level.rank⟩]

/-- The rank that a word or a digit stands for. -/
def rank? (t : Text) : Option Nat :=
  let words : List (String × Nat) :=
    [("off", 0), ("error", 1), ("warn", 2), ("info", 3), ("debug", 4), ("trace", 5),
      ("0", 0), ("1", 1), ("2", 2), ("3", 3), ("4", 4), ("5", 5)]
  (words.find? fun w => w.1.toList == t.map Char.toLower).map Prod.snd

/-- Reads a directive: a level, an origin, or both with an equals sign between them. An origin alone
shows everything. -/
def directive? (t : Text) : Option Directive :=
  match t.splitOn '=' with
  | [one] =>
    match rank? one with
    | some rank => some ⟨[], rank⟩
    | none => some ⟨one, Level.trace.rank⟩
  | [origin, level] => (rank? level).map fun rank => ⟨origin, rank⟩
  | _ => none

/-- Reads directives that are separated by commas. Without any, only errors are shown. -/
def parse? (t : Text) : Option LogFilter := do
  let directives ← ((t.splitOn ',').filter fun d => !d.isEmpty).mapM directive?
  if directives.isEmpty then pure [⟨[], Level.error.rank⟩] else pure directives

/-- Of two directives the one with the longer origin counts, and of two with the same the later
one. -/
def stronger (best : Option Directive) (d : Directive) : Option Directive :=
  match best with
  | some b => if d.origin.length < b.origin.length then best else some d
  | none => some d

/-- An event is shown. -/
def shows (filter : LogFilter) (e : Event) : Bool :=
  let about := filter.filter fun d => d.origin.isPrefixOf e.origin
  (about.foldl stronger none).any fun d => e.level.rank ≤ d.rank

end LogFilter

end RouteStubs
