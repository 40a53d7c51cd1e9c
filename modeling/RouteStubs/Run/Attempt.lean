import RouteStubs.Log.Traced

/-!
# Attempts

A computation that may change files. It can fail, but also then it has noted events on its way and
leaves a file system, which need not be the one that it found.
-/

namespace RouteStubs

/-- The events noted, in order, the outcome or the failure, and the file system that is left in
either case. -/
structure Attempt (α : Type) where
  events : List Event
  outcome : Except Failure α
  fs : FileSystem

namespace Attempt

variable {α β : Type}

/-- The outcome together with the file system. Of a failure the file system is not told. -/
def result (a : Attempt α) : Except Failure (α × FileSystem) :=
  a.outcome.map (·, a.fs)

/-- The attempt with what `f` makes of its outcome. -/
def map (f : α → β) (a : Attempt α) : Attempt β :=
  { a with outcome := a.outcome.map f }

/-- Goes on with the result of `t`, which leaves the file system alone. The events of both steps are
kept. -/
def after (t : Traced α) (fs : FileSystem) (f : α → Attempt β) : Attempt β :=
  match t.result with
  | .ok a => { f a with events := t.events ++ (f a).events }
  | .error failure => ⟨t.events, .error failure, fs⟩

end Attempt

end RouteStubs
