import RouteStubs.Template.Render
import RouteStubs.Text.Utf8

/-!
# Sinks of limited capacity

A sink takes bytes until it is full, if it ever is. A write that does not fit is taken in part and
fails, and so does every later one, unless it has nothing to write.
-/

namespace RouteStubs.Template

/-- A sink: the bytes it has taken, and how many more it can take, if there is a limit. -/
structure Sink where
  taken : List UInt8
  room? : Option Nat
  deriving DecidableEq, Repr

namespace Sink

/-- An empty sink that can take `room` bytes. -/
def withRoom (room : Nat) : Sink := ⟨[], some room⟩

/-- The sink has room for `bytes`. -/
def fits (s : Sink) (bytes : List UInt8) : Bool :=
  s.room?.all (bytes.length ≤ ·)

/-- The sink once `bytes` have been offered to it: it has taken as many of them as it had room
for. -/
def after (s : Sink) (bytes : List UInt8) : Sink :=
  match s.room? with
  | none => ⟨s.taken ++ bytes, none⟩
  | some room => ⟨s.taken ++ bytes.take room, some (room - bytes.length)⟩

/-- Writes bytes to a sink. The error is the sink as the failed write leaves it. -/
def write (s : Sink) (bytes : List UInt8) : Except Sink Sink :=
  if s.fits bytes then .ok (s.after bytes) else .error (s.after bytes)

/-- Writes texts one after the other up to the first failure. -/
def writeAll (s : Sink) : List Text → Except Sink Sink
  | [] => .ok s
  | t :: ts => do
    let s ← s.write (Text.encode t)
    s.writeAll ts

/-- The sink that is left, whether or not a write has failed. -/
def left : Except Sink Sink → Sink
  | .ok s => s
  | .error s => s

end Sink

/-- Fills a template into a sink. -/
def renderInto (ctx : Context) (t : Template) (s : Sink) : Except Sink Sink :=
  s.writeAll (writes ctx t)

end RouteStubs.Template
