import RouteStubs.Text.Basic

/-!
# Texts as bytes

The encoding UTF-8. Every text has one sequence of bytes. Reading bytes divides them, from the left,
into pieces: the encoding of a character where one begins, and otherwise the longest beginning of an
encoding that cannot go on, or a single byte that begins none. A faulty piece is no character; it
can be shown as the replacement character.
-/

namespace RouteStubs.Text

/-- The bytes of a text. -/
def encode (t : Text) : List UInt8 :=
  t.flatMap String.utf8EncodeChar

/-- The number of bytes of a text. -/
def byteLength (t : Text) : Nat :=
  t.foldl (fun n c => n + c.utf8Size) 0

/-- The character that stands for bytes that are no character. -/
def replacement : Char := '\ufffd'

/-- A byte that goes on with an encoding. -/
def isContinuation (b : UInt8) : Bool :=
  0x80 ≤ b && b ≤ 0xbf

/-- Whether `b` may follow `a` where `a` begins the encoding of a character in three or more bytes.
It rules out encodings that are longer than necessary, surrogates, and numbers beyond the last
character. -/
def mayFollow (a b : UInt8) : Bool :=
  if a = 0xe0 then 0xa0 ≤ b && b ≤ 0xbf
  else if a = 0xed then 0x80 ≤ b && b ≤ 0x9f
  else if a = 0xf0 then 0x90 ≤ b && b ≤ 0xbf
  else if a = 0xf4 then 0x80 ≤ b && b ≤ 0x8f
  else isContinuation b

/-- The first piece of a sequence of bytes: its character, if it has one, and how many bytes belong
to it after the first. -/
structure Piece where
  char? : Option Char
  more : Nat
  deriving DecidableEq, Repr

/-- The number that the bytes of an encoding stand for: the given bits of the first byte, then six
of each other. -/
def scalar (lead : UInt8) (bits : Nat) (others : List UInt8) : Char :=
  Char.ofNat (others.foldl (fun n b => n * 64 + b.toNat % 64) (lead.toNat % Nat.pow 2 bits))

/-- The piece that begins with byte `a` and goes on with what follows it. -/
def piece (a : UInt8) (rest : List UInt8) : Piece :=
  if a < 0x80 then ⟨some (Char.ofNat a.toNat), 0⟩
  else if 0xc2 ≤ a && a ≤ 0xdf then
    match rest with
    | b :: _ => if isContinuation b then ⟨some (scalar a 5 [b]), 1⟩ else ⟨none, 0⟩
    | [] => ⟨none, 0⟩
  else if 0xe0 ≤ a && a ≤ 0xef then
    match rest with
    | b :: c :: _ =>
      if !mayFollow a b then ⟨none, 0⟩
      else if !isContinuation c then ⟨none, 1⟩
      else ⟨some (scalar a 4 [b, c]), 2⟩
    | [b] => ⟨none, if mayFollow a b then 1 else 0⟩
    | [] => ⟨none, 0⟩
  else if 0xf0 ≤ a && a ≤ 0xf4 then
    match rest with
    | b :: c :: d :: _ =>
      if !mayFollow a b then ⟨none, 0⟩
      else if !isContinuation c then ⟨none, 1⟩
      else if !isContinuation d then ⟨none, 2⟩
      else ⟨some (scalar a 3 [b, c, d]), 3⟩
    | [b, c] => ⟨none, if !mayFollow a b then 0 else if isContinuation c then 2 else 1⟩
    | [b] => ⟨none, if mayFollow a b then 1 else 0⟩
    | [] => ⟨none, 0⟩
  else ⟨none, 0⟩

/-- The characters of all pieces, put in reverse before those gathered already. -/
def gatherPieces (gathered : List (Option Char)) : List UInt8 → List (Option Char)
  | [] => gathered
  | a :: rest =>
    let p := piece a rest
    gatherPieces (p.char? :: gathered) (rest.drop p.more)
termination_by bytes => bytes.length

/-- The pieces of a sequence of bytes, as the characters that they encode. -/
def pieces (bytes : List UInt8) : List (Option Char) :=
  (gatherPieces [] bytes).reverse

/-- The text that the bytes encode, if all of them belong to characters. -/
def decode? (bytes : List UInt8) : Option Text :=
  let ps := pieces bytes
  if ps.all Option.isSome then some (ps.filterMap id) else none

/-- The text that the bytes encode, with the replacement character for every faulty piece. -/
def decodeLossy (bytes : List UInt8) : Text :=
  (pieces bytes).map fun c? => c?.getD replacement

end RouteStubs.Text
