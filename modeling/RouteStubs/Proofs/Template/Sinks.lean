import Mathlib.Tactic.Lemma
import RouteStubs.Run.Generator

/-!
# Sinks that fill up

Filling a template is many writes, one after the other, and the first one that does not fit ends it.
What the sink has taken by then does not show where one write ended and the next one began: it is
the beginning of the filled template, cut off after as many bytes as the sink had room for. The
filling fails exactly if something is cut off. `Template.renderInto_eq_write` says so of
`Template.renderInto`, and `Generator.renderInto_eq` of `Generator.renderInto`.
-/

namespace RouteStubs

namespace Template

namespace Sink

/-- To offer `bytes` and then `others` to a sink is to offer them together. -/
lemma after_after (s : Sink) (bytes others : List UInt8) :
    (s.after bytes).after others = s.after (bytes ++ others) := by
  obtain ⟨taken, room?⟩ := s
  cases room? with
  | none => simp [after]
  | some room =>
    simp only [after, List.take_append, List.length_append, List.append_assoc, Nat.sub_sub]

/-- The bytes of `bytes ++ others` fit exactly if `bytes` fit and `others` fit behind them. -/
lemma fits_append (s : Sink) (bytes others : List UInt8) :
    s.fits (bytes ++ others) = (s.fits bytes && (s.after bytes).fits others) := by
  obtain ⟨taken, room?⟩ := s
  cases room? with
  | none => rfl
  | some room =>
    have hroom : bytes.length + others.length ≤ room ↔
        bytes.length ≤ room ∧ others.length ≤ room - bytes.length := by
      omega
    simp [fits, after, hroom]

/-- Behind `bytes` that do not fit, nothing is taken of `others`. -/
lemma after_append_of_not_fits {s : Sink} {bytes : List UInt8} (h : s.fits bytes = false)
    (others : List UInt8) : s.after (bytes ++ others) = s.after bytes := by
  obtain ⟨taken, room?⟩ := s
  cases room? with
  | none => cases h
  | some room =>
    have hlt : room < bytes.length := by simpa [fits] using h
    have hroom : room - bytes.length = 0 := Nat.sub_eq_zero_of_le (Nat.le_of_lt hlt)
    rw [← after_after]
    simp [after, hroom]

/-- A write leaves `s.after bytes`, whether or not it fails. -/
@[simp] lemma left_write (s : Sink) (bytes : List UInt8) :
    left (s.write bytes) = s.after bytes := by
  unfold write
  split <;> rfl

/-- The bytes of `t :: ts` are those of `t` and then those of `ts`. -/
lemma encode_flatten_cons (t : Text) (ts : List Text) :
    Text.encode (t :: ts).flatten = Text.encode t ++ Text.encode ts.flatten := by
  simp [Text.encode]

/-- `writeAll` writes texts one after the other, which is to `write` all of them at once. The
induction is on the texts: a text that fits leaves the sink as the others find it, and one that does
not fit ends the writing with no room left. -/
lemma writeAll_eq (s : Sink) (ts : List Text) :
    s.writeAll ts = s.write (Text.encode ts.flatten) := by
  induction ts generalizing s with
  | nil =>
    obtain ⟨taken, room?⟩ := s
    cases room? <;> simp [writeAll, write, fits, after, Text.encode]
  | cons t ts ih =>
    rw [encode_flatten_cons, writeAll, write, write, fits_append]
    cases hfits : s.fits (Text.encode t) with
    | true =>
      change (s.after (Text.encode t)).writeAll ts = _
      rw [ih, write, after_after, Bool.true_and]
    | false =>
      rw [after_append_of_not_fits hfits, Bool.false_and]
      rfl

end Sink

/-- Filling a template into a sink is one `Sink.write` of the filled template. -/
lemma renderInto_eq_write (ctx : Context) (t : Template) (s : Sink) :
    renderInto ctx t s = s.write (Text.encode (render ctx t)) :=
  s.writeAll_eq (writes ctx t)

end Template

namespace Generator

open Template

/-- If the sink can be flushed, `renderInto` fails exactly if the filled template does not fit. -/
lemma renderInto_eq (ctx : Context) (t : Template) (output : Text) (s : Sink)
    (cause : SystemError) :
    renderInto ctx t output s cause (.ok ()) =
      if s.fits (Text.encode (render ctx t)) then .ok () else .error (.render output cause) := by
  rw [renderInto, renderInto_eq_write, Sink.write]
  cases s.fits (Text.encode (render ctx t)) with
  | true => rfl
  | false => rfl

/-- A sink that has room for `n` bytes takes the first `n` bytes of the filled template, or all of
them if there are no more. Filling it fails exactly if there are more, and then the file `output`,
for which the sink stands, cannot be rendered. -/
theorem limited_sink_takes_beginning (ctx : Context) (t : Template) (output : Text)
    (cause : SystemError) (n : Nat) :
    (Sink.left (Template.renderInto ctx t (.withRoom n))).taken =
        (Text.encode (render ctx t)).take (min n (Text.encode (render ctx t)).length) ∧
      ((∃ s, Template.renderInto ctx t (.withRoom n) = .error s) ↔
        n < (Text.encode (render ctx t)).length) ∧
      renderInto ctx t output (.withRoom n) cause (.ok ()) =
        if n < (Text.encode (render ctx t)).length then .error (.render output cause)
        else .ok () := by
  rw [renderInto_eq, renderInto_eq_write, Sink.left_write, Sink.write]
  have htaken : ((Sink.withRoom n).after (Text.encode (render ctx t))).taken =
      (Text.encode (render ctx t)).take n := by
    simp [Sink.after, Sink.withRoom]
  have hroom : (Sink.withRoom n).fits (Text.encode (render ctx t)) =
      decide ((Text.encode (render ctx t)).length ≤ n) := rfl
  rw [htaken, hroom]
  by_cases hfits : (Text.encode (render ctx t)).length ≤ n
  · have hlt : ¬ n < (Text.encode (render ctx t)).length := Nat.not_lt.mpr hfits
    rw [Nat.min_eq_right hfits, List.take_length, List.take_of_length_le hfits]
    simp [hfits, hlt]
  · have hlt : n < (Text.encode (render ctx t)).length := Nat.lt_of_not_le hfits
    rw [Nat.min_eq_left (Nat.le_of_lt hlt)]
    simp [hfits, hlt]

end Generator

end RouteStubs
