import RouteStubs.Syntax.Node
import RouteStubs.Text.Basic
import RouteStubs.Text.Identifier

/-!
# Tokens

The words, numbers, quoted literals and comments of the language, each as a function that takes one
of them off the front of a text. A scanner answers with the characters taken and the rest, and takes
as many characters as it can. Nothing here depends on where in a program the token stands: which
tokens are looked for at a place is the grammar's business.
-/

namespace RouteStubs.Syntax.Token

/-- Takes a token off the front of a text: the characters of the token, and what follows it. -/
abbrev Scanner : Type := Text → Option (Text × Text)

/-- The character that is never part of a token. -/
def nul : Char := '\x00'

/-- The character that encloses a raw string. -/
def backquote : Char := '\x60'

/-- A scanner that reads to a given end, from that end. -/
def taken (whole rest : Text) : Text × Text :=
  (whole.take (whole.length - rest.length), rest)

/-! ## Words -/

/-- A name or a keyword. -/
def word : Scanner
  | [] => none
  | c :: cs =>
    if Text.isIdentifierStart c then
      some (c :: cs.takeWhile Text.isIdentifierContinue, cs.dropWhile Text.isIdentifierContinue)
    else none

/-! ## Comments -/

/-- What follows the end mark of a comment that may span lines, if it has an end. -/
def afterBlockComment : Text → Option Text
  | '*' :: '/' :: rest => some rest
  | c :: rest => if c = nul then none else afterBlockComment rest
  | [] => none

/-- A comment to the end of its line, without the line break, or a comment between marks. -/
def comment : Scanner
  | '/' :: '/' :: rest =>
    let more := rest.takeWhile fun c => c != '\n' && c != nul
    some ('/' :: '/' :: more, rest.drop more.length)
  | '/' :: '*' :: rest =>
    (afterBlockComment rest).map fun after => taken ('/' :: '*' :: rest) after
  | _ => none

/-! ## Numbers -/

/-- Digits that follow a first one, each perhaps after one underscore: what remains after them. -/
def moreDigits (isDigit : Char → Bool) : Text → Text
  | '_' :: c :: rest => if isDigit c then moreDigits isDigit rest else '_' :: c :: rest
  | c :: rest => if isDigit c then moreDigits isDigit rest else c :: rest
  | [] => []

/-- One or more digits with single underscores between them: what remains after them. -/
def digits (isDigit : Char → Bool) : Text → Option Text
  | c :: rest => if isDigit c then some (moreDigits isDigit rest) else none
  | [] => none

/-- Passes over one character of the given set. -/
def one (set : List Char) : Text → Option Text
  | c :: rest => if c ∈ set then some rest else none
  | [] => none

/-- Passes over one character of the given set, if there is one. -/
def maybe (set : List Char) (s : Text) : Text :=
  (one set s).getD s

/-- A hexadecimal digit. -/
def isHexDigit (c : Char) : Bool :=
  c.isDigit || ('a' ≤ c && c ≤ 'f') || ('A' ≤ c && c ≤ 'F')

/-- An octal digit. -/
def isOctalDigit (c : Char) : Bool :=
  '0' ≤ c && c ≤ '7'

/-- A binary digit. -/
def isBinaryDigit (c : Char) : Bool :=
  c == '0' || c == '1'

/-- A power after a mantissa: its letter, perhaps a sign, and decimal digits. -/
def exponent (letters : List Char) (s : Text) : Option Text := do
  let s ← one letters s
  digits Char.isDigit (maybe ['+', '-'] s)

/-- The ways to read an integer at the front of a text, each as what remains after it. -/
def integers (s : Text) : List Text :=
  [ do let s ← one ['0'] s; let s ← one ['b', 'B'] s; digits isBinaryDigit (maybe ['_'] s),
    one ['0'] s,
    do let s ← one "123456789".toList s; pure (moreDigits Char.isDigit s),
    do let s ← one ['0'] s; digits isOctalDigit (maybe ['_'] (maybe ['o', 'O'] s)),
    do let s ← one ['0'] s; let s ← one ['x', 'X'] s; digits isHexDigit (maybe ['_'] s)
  ].filterMap id

/-- The ways to read a number with a fraction or a power, each as what remains after it. -/
def fractions (s : Text) : List Text :=
  let power (s : Text) : Text := (exponent ['e', 'E'] s).getD s
  let hexMantissas (s : Text) : List Text :=
    [ do let s ← digits isHexDigit (maybe ['_'] s)
         let s ← one ['.'] s
         pure ((digits isHexDigit s).getD s),
      digits isHexDigit (maybe ['_'] s),
      do let s ← one ['.'] s; digits isHexDigit s ].filterMap id
  let hexadecimal : List Text :=
    match (do let s ← one ['0'] s; one ['x', 'X'] s) with
    | some s => (hexMantissas s).filterMap (exponent ['p', 'P'])
    | none => []
  [ do let s ← digits Char.isDigit s
       let s ← one ['.'] s
       pure (power ((digits Char.isDigit s).getD s)),
    do let s ← digits Char.isDigit s; exponent ['e', 'E'] s,
    do let s ← one ['.'] s; let s ← digits Char.isDigit s; pure (power s)
  ].filterMap id ++ hexadecimal

/-- The ways to read an imaginary number, each as what remains after it. -/
def imaginaries (s : Text) : List Text :=
  ((digits Char.isDigit s).toList ++ integers s ++ fractions s).filterMap (one ['i'])

/-- A number: of all ways to read one, the one that takes the most characters. -/
def number (s : Text) : Option (Kind × Text × Text) :=
  let ways : List (Kind × Text) :=
    (integers s).map (Kind.intLiteral, ·) ++ (fractions s).map (Kind.floatLiteral, ·) ++
      (imaginaries s).map (Kind.imaginaryLiteral, ·)
  let longer (best : Option (Kind × Text)) (way : Kind × Text) : Option (Kind × Text) :=
    match best with
    | some b => if way.2.length < b.2.length then some way else best
    | none => some way
  (ways.foldl longer none).map fun (kind, rest) => (kind, taken s rest)

/-! ## Quoted literals -/

/-- Passes over exactly `n` hexadecimal digits. -/
def hexDigits : Nat → Text → Option Text
  | 0, s => some s
  | n + 1, c :: rest => if isHexDigit c then hexDigits n rest else none
  | _ + 1, [] => none

/-- What follows an escape in a character literal, from the character after the backslash. -/
def afterRuneEscape : Text → Option Text
  | 'x' :: s => hexDigits 2 s
  | 'u' :: s => hexDigits 4 s
  | 'U' :: s => hexDigits 8 s
  | c :: s =>
    if c ∈ "abfnrtv\\'\"".toList then some s
    else
      match c :: s with
      | a :: b :: c :: s =>
        if isOctalDigit a && isOctalDigit b && isOctalDigit c then some s else none
      | _ => none
  | [] => none

/-- A character literal. -/
def rune : Scanner
  | '\'' :: '\\' :: s => do
    let after ← afterRuneEscape s
    match after with
    | '\'' :: rest => some (taken ('\'' :: '\\' :: s) rest)
    | _ => none
  | '\'' :: c :: '\'' :: rest =>
    if c = '\'' || c = nul then none else some (['\'', c, '\''], rest)
  | _ => none

/-- A raw string: everything between two back quotes. -/
def rawString : Scanner
  | c :: s =>
    if c = backquote then
      let content := s.takeWhile fun c => c != backquote && c != nul
      match s.drop content.length with
      | d :: rest => if d = backquote then some (c :: content ++ [d], rest) else none
      | [] => none
    else none
  | [] => none

/-- What follows an escape in an interpreted string, from the character after the backslash. -/
def afterStringEscape : Text → Option Text
  | 'x' :: s => hexDigits 2 s
  | 'u' :: s => hexDigits 4 s
  | 'U' :: s => hexDigits 8 s
  | c :: s => if c = nul then none else some s
  | [] => none

/-- The blanks that may stand between any two tokens. -/
def isBlank (c : Char) : Bool :=
  c == ' ' || c == '\n' || c == '\t' || c == '\r' || c == '\x0b' || c == '\x0c'

/-- What follows the closing quote of an interpreted string, from inside it. A line break may stand
in the string only before a comment; comments elsewhere are content like everything else. There are
at most as many steps as the bound has characters. -/
def afterString : (bound : Text) → Text → Option Text
  | [], _ => none
  | _ :: bound, s =>
    match s with
    | '"' :: rest => some rest
    | '\\' :: rest => (afterStringEscape rest).bind (afterString bound)
    | '\n' :: rest => do
      let (_, after) ← comment (rest.dropWhile isBlank)
      afterString bound after
    | c :: rest => if c = nul then none else afterString bound rest
    | [] => none

/-- An interpreted string. -/
def interpretedString : Scanner
  | '"' :: s => (afterString s s).map (taken ('"' :: s))
  | _ => none

/-- A literal of any kind but the ones written as words. -/
def literal (s : Text) : Option (Kind × Text × Text) :=
  match s with
  | '"' :: _ => (interpretedString s).map (Kind.interpretedStringLiteral, ·)
  | '\'' :: _ => (rune s).map (Kind.runeLiteral, ·)
  | c :: _ =>
    if c = backquote then (rawString s).map (Kind.rawStringLiteral, ·)
    else if c.isDigit || c == '.' then number s
    else none
  | [] => none

end RouteStubs.Syntax.Token
