import RouteStubs.Text.Numeral
import RouteStubs.Text.Space
import RouteStubs.Text.Uppercase

/-!
# File sizes

A number of bytes, written with decimal digits and perhaps a unit: `K`, `M` or `G` for a power of
1024, each also with a `B` after it. Sizes are less than 2⁶⁴.
-/

namespace RouteStubs.FileSize

/-- Why a text is no file size. -/
inductive Fault where
  | badNumber (number : Text)
  | tooLarge (text : Text)
  deriving DecidableEq, Repr

/-- The wording of a fault. -/
def Fault.message : Fault → Text
  | .badNumber number => lit "invalid number: " ++ number
  | .tooLarge text => lit "size too large: " ++ text

/-- The first size that cannot be written down. -/
def bound : Nat := Nat.pow 2 64

/-- A kilobyte. -/
def kilobyte : Nat := 1024

/-- A megabyte. -/
def megabyte : Nat := 1024 * kilobyte

/-- A gigabyte. -/
def gigabyte : Nat := 1024 * megabyte

/-- The units and their sizes. A longer unit comes before its own end. -/
def units : List (Text × Nat) :=
  [(lit "GB", gigabyte), (lit "G", gigabyte), (lit "MB", megabyte), (lit "M", megabyte),
    (lit "KB", kilobyte), (lit "K", kilobyte)]

/-- The number part of a size, and the size of its unit. -/
def splitUnit (t : Text) : Text × Nat :=
  match units.find? fun u => u.1.isSuffixOf t with
  | some (unit, size) => (t.take (t.length - unit.length), size)
  | none => (t, 1)

/-- The number that decimal digits write down, perhaps with a plus sign in front. -/
def number? (t : Text) : Option Nat :=
  let digits := if t.head? == some '+' then t.tail else t
  if digits.isEmpty then none
  else (Text.numberIn? 10 digits).filter fun n => decide (n < bound)

/-- Reads a file size. White space around it and around its number, and the case of the unit, do not
matter. -/
def parse (t : Text) : Except Fault Nat :=
  let t := Text.upper (Text.trim t)
  let (numberPart, unit) := splitUnit t
  match number? (Text.trim numberPart) with
  | none => .error (.badNumber numberPart)
  | some n => if n * unit < bound then .ok (n * unit) else .error (.tooLarge t)

end RouteStubs.FileSize
