import RouteStubs.Syntax.Node
import RouteStubs.Syntax.Token
import RouteStubs.Text.Numeral
import RouteStubs.Text.Utf8

/-!
# String literals

The texts that string literals stand for, and the literal of a text. A raw literal stands for what
is between its quotes. In an interpreted literal a backslash begins an escape, which stands for a
character or for a single byte; the bytes of all characters and escapes together are the literal's
value, so that several byte escapes can make up one character. A backslash that begins no escape
stands for itself.
-/

namespace RouteStubs.Syntax.StringLiteral

/-- What an escape stands for: a character, or one byte of the value. -/
inductive Denoted where
  | char (c : Char)
  | byte (b : UInt8)
  deriving DecidableEq, Repr

/-- The bytes of what an escape stands for. -/
def Denoted.bytes : Denoted → List UInt8
  | .char c => Text.encode [c]
  | .byte b => [b]

/-- An escape: what it stands for, and how many characters it has after its backslash. -/
structure Escape where
  denoted : Denoted
  width : Nat
  deriving DecidableEq, Repr

/-- The character that a single letter or mark after the backslash stands for. -/
def simpleEscape? : Char → Option Char
  | 'a' => some '\x07'
  | 'b' => some '\x08'
  | 'f' => some '\x0c'
  | 'n' => some '\n'
  | 'r' => some '\r'
  | 't' => some '\t'
  | 'v' => some '\x0b'
  | '\\' => some '\\'
  | '"' => some '"'
  | '\'' => some '\''
  | _ => none

/-- The number that the first `count` characters write down, if there are that many and all of them
are digits of the base. -/
def digitsAt? (base count : Nat) (t : Text) : Option Nat :=
  if (t.take count).length = count then Text.numberIn? base (t.take count) else none

/-- The character with the given number, unless the number belongs to none. -/
def scalar? (n : Nat) : Option Char :=
  if n.isValidChar then some (Char.ofNat n) else none

/-- The escape at the front of the text that follows a backslash. -/
def escape? : Text → Option Escape
  | [] => none
  | c :: t =>
    match simpleEscape? c with
    | some d => some ⟨.char d, 1⟩
    | none =>
      if c = 'x' then
        (digitsAt? 16 2 t).map fun n => ⟨.byte (UInt8.ofNat n), 3⟩
      else if Token.isOctalDigit c then
        ((digitsAt? 8 3 (c :: t)).filter fun n => decide (n ≤ 0xff)).map fun n =>
          ⟨.byte (UInt8.ofNat n), 3⟩
      else if c = 'u' then
        ((digitsAt? 16 4 t).bind scalar?).map fun d => ⟨.char d, 5⟩
      else if c = 'U' then
        ((digitsAt? 16 8 t).bind scalar?).map fun d => ⟨.char d, 9⟩
      else none

/-- The bytes that stand between the quotes of an interpreted literal once its escapes are
resolved. -/
def resolveBytes : Text → List UInt8
  | [] => []
  | c :: t =>
    if c = '\\' then
      match escape? t with
      | some e => e.denoted.bytes ++ resolveBytes (t.drop e.width)
      | none => Text.encode [c] ++ resolveBytes t
    else Text.encode [c] ++ resolveBytes t
termination_by t => t.length

/-- The text that stands between the quotes of an interpreted literal once its escapes are
resolved. -/
def resolve (t : Text) : Text :=
  Text.decodeLossy (resolveBytes t)

/-- What stands between two equal quotes that enclose the text. -/
def between? (quote : Char) (t : Text) : Option Text :=
  match t with
  | c :: rest =>
    if c = quote then
      match rest.reverse with
      | d :: inner => if d = quote then some inner.reverse else none
      | [] => none
    else none
  | [] => none

/-- The text that a node stands for if it is a string literal. -/
def value? (n : Node) : Option Text :=
  match n.kind with
  | .rawStringLiteral => between? Token.backquote n.text
  | .interpretedStringLiteral => (between? '"' n.text).map resolve
  | _ => none

mutual

/-- The string literals of a tree with the texts they stand for, in the order of the source. -/
def inTree : Node → List (Node × Text)
  | ⟨kind, role, span, text, children⟩ =>
    let n : Node := ⟨kind, role, span, text, children⟩
    ((value? n).map (n, ·)).toList ++ inTrees children

/-- The string literals of several trees, one after the other. -/
def inTrees : List Node → List (Node × Text)
  | [] => []
  | n :: ns => inTree n ++ inTrees ns

end

/-! ## Writing literals -/

/-- A control character, for which no literal has room. -/
def isControl (c : Char) : Bool :=
  c.toNat < 0x20 || (0x7f ≤ c.toNat && c.toNat < 0xa0)

/-- A character as it is written in an interpreted literal. -/
def quoteChar (c : Char) : Text :=
  if c = '"' then ['\\', '"']
  else if c = '\\' then ['\\', '\\']
  else if c = '\n' then ['\\', 'n']
  else if c = '\r' then ['\\', 'r']
  else if c = '\t' then ['\\', 't']
  else if isControl c then '\\' :: 'u' :: Text.hexadecimal 4 c.toNat
  else [c]

/-- The interpreted literal of a text. -/
def quote (t : Text) : Text :=
  '"' :: t.flatMap quoteChar ++ ['"']

end RouteStubs.Syntax.StringLiteral
