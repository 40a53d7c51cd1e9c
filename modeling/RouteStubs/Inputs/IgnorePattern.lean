import RouteStubs.Text.Space
import RouteStubs.Text.Utf8

/-!
# Patterns of ignore files

An ignore file has a pattern on each line. A pattern is matched against the path of an entry below
the directory of the ignore file, byte by byte. A question mark and an asterisk do not pass over a
slash; two asterisks stand for any number of directories where they make up a component; braces list
alternatives, and a backslash takes its meaning from the character after it.
-/

namespace RouteStubs.IgnorePattern

/-- A part of a pattern. -/
inductive Token where
  | byte (b : UInt8)
  /-- Any byte but a slash. -/
  | any
  /-- Any number of bytes but slashes. -/
  | anyRun
  /-- Nothing, or directories up to and with a slash, at the beginning of a pattern. -/
  | directoriesBefore
  /-- A slash, or directories between two slashes. -/
  | directoriesBetween
  /-- A slash and everything after it. -/
  | everythingBelow
  | within (ranges : List (UInt8 × UInt8))
  | outside (ranges : List (UInt8 × UInt8))
  | oneOf (alternatives : List (List Token))

/-- The byte of a slash. -/
def slash : UInt8 := 0x2f

/-! ## Reading patterns -/

/-- The tokens of a character that stands for itself. -/
def plain (c : Char) : List Token :=
  (Text.encode [c]).map .byte

/-- The ranges of bytes between two characters. Where a character has several bytes the range runs
from the last byte of the first to the first byte of the last, and the other bytes stand alone. -/
def byteRanges (first last : Char) : List (UInt8 × UInt8) :=
  let single (b : UInt8) : UInt8 × UInt8 := (b, b)
  let a := Text.encode [first]
  let z := Text.encode [last]
  if first = last then a.map single
  else a.dropLast.map single ++ [(a.getLast?.getD 0, z.head?.getD 0)] ++ z.tail.map single

/-- The members of a bracket, each the first and the last of a range of characters, and what follows
the bracket. `members` are those before, in reverse; `open_` holds after a hyphen that the next
character may turn into a range. -/
def bracketFrom (members : List (Char × Char)) (open_ : Bool) :
    Text → Option (List (Char × Char) × Text)
  | [] => none
  | c :: rest =>
    match members with
    | [] => bracketFrom [(c, c)] false rest
    | (first, last) :: others =>
      if c = ']' then
        some (((if open_ then [('-', '-')] else []) ++ members).reverse, rest)
      else if open_ then
        if c < first then none else bracketFrom ((first, c) :: others) false rest
      else if c = '-' then bracketFrom members true rest
      else bracketFrom ((c, c) :: (first, last) :: others) false rest

/-- A bracket, from inside it. -/
def bracket? (t : Text) : Option (Token × Text) :=
  let negated := t.head? == some '!' || t.head? == some '^'
  (bracketFrom [] false (if negated then t.tail else t)).map fun (members, rest) =>
    let ranges := members.flatMap fun (first, last) => byteRanges first last
    (if negated then .outside ranges else .within ranges, rest)

/-- What ends a sequence of tokens. -/
inductive Stop where
  | end_
  | comma
  | brace
  deriving DecidableEq

/-- What two asterisks mean after the given tokens, which are in reverse, and what is left of the
text. -/
def asterisks (inBraces : Bool) (before : Option Char) (done : List Token) (rest : Text) :
    List Token × Option Char × Text :=
  let runs : List Token × Option Char × Text := (.anyRun :: .anyRun :: done, some '*', rest)
  let afterSlash := before == some '/'
  let startsAlternative := inBraces && (before == some ',' || before == some '\x7b')
  let collapse (t : Token) : List Token :=
    match done with
    | .directoriesBefore :: _ => done
    | .everythingBelow :: _ => done
    | _ :: others => t :: others
    | [] => [t]
  if done.isEmpty then
    match rest with
    | [] => ([.directoriesBefore], some '*', [])
    | '/' :: more => ([.directoriesBefore], some '/', more)
    | _ => runs
  else if !afterSlash && !startsAlternative then runs
  else
    match rest with
    | [] => (collapse .everythingBelow, some '*', [])
    | c :: more =>
      if c = '/' then (collapse .directoriesBetween, some '/', more)
      else if inBraces && (c = ',' || c = '\x7d') then
        (collapse .everythingBelow, some '*', rest)
      else runs

mutual

/-- Reads tokens up to the end of the text or, within braces, of the alternative. `done` are those
before, in reverse. The number bounds the steps. -/
def sequence : Nat → Bool → Option Char → List Token → Text → Option (List Token × Stop × Text)
  | 0, _, _, _, _ => none
  | _, inBraces, _, done, [] => if inBraces then none else some (done.reverse, .end_, [])
  | n + 1, inBraces, before, done, c :: rest =>
    if c = '?' then sequence n inBraces (some c) (.any :: done) rest
    else if c = '*' then
      match rest with
      | '*' :: more =>
        let (done, before, rest) := asterisks inBraces before done more
        sequence n inBraces before done rest
      | _ => sequence n inBraces (some c) (.anyRun :: done) rest
    else if c = '[' then
      match bracket? rest with
      | some (token, rest) => sequence n inBraces (some ']') (token :: done) rest
      | none => none
    else if c = '\x7b' then
      match alternatives n [] rest with
      | some (found, rest) => sequence n inBraces (some '\x7d') (.oneOf found :: done) rest
      | none => none
    else if c = '\x7d' then if inBraces then some (done.reverse, .brace, rest) else none
    else if c = ',' ∧ inBraces then some (done.reverse, .comma, rest)
    else if c = '\\' then
      match rest with
      | d :: rest => sequence n inBraces (some d) ((plain d).reverse ++ done) rest
      | [] => none
    else sequence n inBraces (some c) ((plain c).reverse ++ done) rest

/-- Reads the alternatives in braces. The number bounds the steps. -/
def alternatives : Nat → List (List Token) → Text → Option (List (List Token) × Text)
  | 0, _, _ => none
  | n + 1, found, t =>
    match sequence n true (some (if found.isEmpty then '\x7b' else ',')) [] t with
    | some (tokens, .comma, rest) => alternatives n (found ++ [tokens]) rest
    | some (tokens, .brace, rest) => some (found ++ [tokens], rest)
    | _ => none

end

/-- Reads the tokens of a pattern. -/
def parse? (t : Text) : Option (List Token) :=
  (sequence (2 * t.length + 2) false none [] t).map Prod.fst

/-! ## Matching -/

/-- All ends of a sequence of bytes. -/
def ends : List UInt8 → List (List UInt8)
  | [] => [[]]
  | b :: rest => (b :: rest) :: ends rest

/-- The ends of a sequence of bytes before its first slash. -/
def endsInComponent : List UInt8 → List (List UInt8)
  | [] => [[]]
  | b :: rest => (b :: rest) :: if b = slash then [] else endsInComponent rest

/-- The ends of a sequence of bytes that follow a slash. -/
def endsAfterSlash : List UInt8 → List (List UInt8)
  | [] => []
  | b :: rest => if b = slash then rest :: endsAfterSlash rest else endsAfterSlash rest

/-- The byte lies in one of the ranges. -/
def inRanges (ranges : List (UInt8 × UInt8)) (b : UInt8) : Bool :=
  ranges.any fun (first, last) => first ≤ b && b ≤ last

mutual

/-- What can be left of a sequence of bytes once a token has matched a beginning of it. -/
def Token.rests : Token → List UInt8 → List (List UInt8)
  | .anyRun, bs => endsInComponent bs
  | .directoriesBefore, bs => bs :: endsAfterSlash bs
  | .byte _, [] | .any, [] | .within _, [] | .outside _, [] => []
  | .directoriesBetween, [] | .everythingBelow, [] => []
  | .byte b, c :: rest => if b = c then [rest] else []
  | .any, c :: rest => if c = slash then [] else [rest]
  | .within ranges, c :: rest => if inRanges ranges c then [rest] else []
  | .outside ranges, c :: rest => if inRanges ranges c then [] else [rest]
  | .directoriesBetween, c :: rest => if c = slash then rest :: endsAfterSlash rest else []
  | .everythingBelow, c :: rest => if c = slash then ends rest else []
  | .oneOf alternatives, bs =>
    if alternatives.all List.isEmpty then [bs] else restsOfAny alternatives bs

/-- What can be left of one of several sequences of bytes once one token after the other has
matched. -/
def restsOfAll : List Token → List (List UInt8) → List (List UInt8)
  | [], rests => rests
  | t :: ts, rests => restsOfAll ts (rests.flatMap fun bs => t.rests bs).eraseDups

/-- What can be left once one of the alternatives has matched. An empty alternative counts only
where all are empty. -/
def restsOfAny : List (List Token) → List UInt8 → List (List UInt8)
  | [], _ => []
  | [] :: others, bs => restsOfAny others bs
  | (t :: ts) :: others, bs => restsOfAll (t :: ts) [bs] ++ restsOfAny others bs

end

/-- The tokens match the whole of a path. Two asterisks by themselves match every path. -/
def accepts (tokens : List Token) (path : List UInt8) : Bool :=
  match tokens with
  | [.directoriesBefore] => true
  | _ => (restsOfAll tokens [path]).any List.isEmpty

end RouteStubs.IgnorePattern
