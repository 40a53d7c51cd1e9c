import RouteStubs.Text.Basic

/-!
# Numerals

Numbers written with digits, in the bases that the library reads and writes.
-/

namespace RouteStubs.Text

/-- The value of a digit, where `a` to `f`, in either case, stand for ten to fifteen. -/
def digitValue? (c : Char) : Option Nat :=
  if '0' ≤ c && c ≤ '9' then some (c.toNat - '0'.toNat)
  else if 'a' ≤ c && c ≤ 'f' then some (c.toNat - 'a'.toNat + 10)
  else if 'A' ≤ c && c ≤ 'F' then some (c.toNat - 'A'.toNat + 10)
  else none

/-- The value of a digit that is less than the base. -/
def digitIn? (base : Nat) (c : Char) : Option Nat :=
  (digitValue? c).filter fun d => decide (d < base)

/-- The number that the digits write down in the given base, if all of them are digits. -/
def numberIn? (base : Nat) (digits : Text) : Option Nat :=
  digits.foldl
    (fun value? c => do
      let value ← value?
      let d ← digitIn? base c
      pure (value * base + d))
    (some 0)

/-- A number in decimal digits. -/
def decimal (n : Nat) : Text :=
  Nat.toDigits 10 n

/-- The text with enough of the given character in front to have the given length. -/
def padLeft (width : Nat) (c : Char) (t : Text) : Text :=
  List.replicate (width - t.length) c ++ t

/-- A number in hexadecimal digits, in lower case and at least `width` of them. -/
def hexadecimal (width n : Nat) : Text :=
  padLeft width '0' (Nat.toDigits 16 n)

end RouteStubs.Text
