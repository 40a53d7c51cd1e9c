import RouteStubs.Failure
import RouteStubs.Log.Event

/-!
# Traced computations

A computation that can fail and that has noted events on its way, whether or not it fails in the
end.
-/

namespace RouteStubs

/-- The events noted, in order, and the result or the failure. -/
structure Traced (α : Type) where
  events : List Event
  result : Except Failure α

namespace Traced

variable {α β : Type}

/-- A result without events. -/
def pure (a : α) : Traced α := ⟨[], .ok a⟩

/-- A failure without events. -/
def fail (f : Failure) : Traced α := ⟨[], .error f⟩

/-- Goes on with the result; the events of both steps are kept. -/
def bind (t : Traced α) (f : α → Traced β) : Traced β :=
  match t.result with
  | .ok a => ⟨t.events ++ (f a).events, (f a).result⟩
  | .error e => ⟨t.events, .error e⟩

instance : Monad Traced where
  pure := Traced.pure
  bind := Traced.bind

/-- Notes an event. -/
def note (e : Event) : Traced Unit := ⟨[e], .ok ()⟩

/-- A result or a failure without events. -/
def ofExcept (r : Except Failure α) : Traced α := ⟨[], r⟩

end Traced

end RouteStubs
