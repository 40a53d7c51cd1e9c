import RouteStubs.Syntax.Token

/-!
# Readings

A stretch of text can have several readings: `a[b]` is an element of `a` or the type `a` applied to
`b`, and where a line break ends a statement under one reading it is a mere blank under the other. A
parser therefore answers with every reading it finds, and a reading carries a weight. Of two
readings that end at the same place the heavier one is kept, and of two equally heavy ones the one
found first.

Blanks and comments may stand between any two tokens. A comment belongs to the smallest construct
that has a token on either side of it, so each parser below starts right at its first token, and the
construct around it takes up the comments in front.
-/

namespace RouteStubs.Syntax

/-- A place in a text: what remains of the text, and how many characters stand before it. -/
structure Cursor where
  offset : Nat
  rest : Text
  deriving DecidableEq, Repr, Inhabited

/-- The place reached when `taken` has been passed over and `rest` remains. -/
def Cursor.past (c : Cursor) (taken rest : Text) : Cursor :=
  ⟨c.offset + taken.length, rest⟩

/-- One way to read the text in front of a place. -/
structure Reading (α : Type) where
  value : α
  weight : Int
  cursor : Cursor

/-- A parser finds the ways to read the text at a place. -/
def Parser (α : Type) : Type := Cursor → List (Reading α)

/-- A parser for some of the parts of a construct. -/
abbrev Parts : Type := Parser (List Node)

namespace Parser

variable {α β : Type}

instance : Inhabited (Parser α) := ⟨fun _ => []⟩

/-- Reads nothing. -/
def done (a : α) : Parser α := fun c => [⟨a, 0, c⟩]

/-- Has no reading. -/
def fail : Parser α := fun _ => []

/-- Reads on after each reading of the first parser; weights add up. -/
def andThen (p : Parser α) (f : α → Parser β) : Parser β := fun c =>
  (p c).flatMap fun r => (f r.value r.cursor).map fun s => { s with weight := r.weight + s.weight }

instance : Monad Parser where
  pure := done
  bind := andThen

/-- The readings of the first parser that has any. -/
def orElse (p q : Parser α) : Parser α := fun c =>
  match p c with
  | [] => q c
  | readings => readings

instance : OrElse (Parser α) := ⟨fun p q => orElse p (q ())⟩

/-- All readings of both parsers. -/
def either (p q : Parser α) : Parser α := fun c => p c ++ q c

/-- Makes every reading heavier. -/
def weigh (w : Int) (p : Parser α) : Parser α := fun c =>
  (p c).map fun r => { r with weight := w + r.weight }

/-- Has readings only where the text satisfies a condition. -/
def guarding (condition : Text → Bool) (p : Parser α) : Parser α := fun c =>
  if condition c.rest then p c else []

end Parser

namespace Reading

variable {α : Type}

/-- Takes a reading into a list of readings with different ends. Where the end is taken already, the
heavier of the two stays, and the one that was there first if they are equally heavy. -/
def enter (r : Reading α) : List (Reading α) → List (Reading α)
  | [] => [r]
  | s :: others =>
    if s.cursor.offset = r.cursor.offset then
      (if s.weight < r.weight then r else s) :: others
    else s :: enter r others

/-- Keeps one reading for every end. -/
def heaviest (readings : List (Reading α)) : List (Reading α) :=
  readings.foldl (fun kept r => enter r kept) []

/-- The reading that ends first, and the others. -/
def hindmost : List (Reading α) → Option (Reading α × List (Reading α))
  | [] => none
  | r :: others =>
    match hindmost others with
    | none => some (r, others)
    | some (s, rest) =>
      if s.cursor.offset < r.cursor.offset then some (s, r :: rest) else some (r, others)

end Reading

namespace Parser

variable {α : Type}

/-- Keeps, for every place where a reading can end, the heaviest that ends there. -/
def heaviest (p : Parser α) : Parser α := fun c => Reading.heaviest (p c)

/-! ## Parts in sequence -/

/-- No parts. -/
def nothing : Parts := done []

/-- One construct after the other. -/
def append (p q : Parts) : Parts :=
  andThen p fun first => andThen q fun second => done (first ++ second)

instance : Append Parts := ⟨append⟩

/-- Parts that may be absent; they are taken where they are there. -/
def optional (p : Parts) : Parts := orElse p nothing

/-- Repeats the parts from each of the open readings for as long as they can be repeated, always
going on from the reading that is furthest behind. There are at most as many steps as the bound has
characters. -/
def manyFrom (p : Parts) : (bound : Text) → List (Reading (List Node)) → List (Reading (List Node))
  | [], readings => readings
  | _ :: bound, readings =>
    match Reading.hindmost readings with
    | none => []
    | some (r, others) =>
      match p r.cursor with
      | [] => r :: manyFrom p bound others
      | next =>
        let grown := next.map fun s =>
          { s with value := r.value ++ s.value, weight := r.weight + s.weight }
        manyFrom p bound (grown.foldl (fun kept s => Reading.enter s kept) others)

/-- Parts any number of times. Each repetition passes over at least one character, so what remains
of the text bounds their number. -/
def many (p : Parts) : Parts := fun c => manyFrom p c.rest [⟨[], 0, c⟩]

/-! ## Blanks and comments -/

end Parser

/-- Where blanks may be passed over: anywhere, or only up to the end of the line because a line
break is a token. -/
inductive Spacing where
  | free
  | sameLine
  deriving DecidableEq, Repr, Inhabited

/-- The blanks that can be passed over. -/
def Spacing.isBlank (s : Spacing) (c : Char) : Bool :=
  Token.isBlank c && (s == .free || c != '\n')

namespace Cursor

/-- Passes over blanks. -/
def skipBlanks (c : Cursor) (s : Spacing) : Cursor :=
  c.past (c.rest.takeWhile s.isBlank) (c.rest.dropWhile s.isBlank)

/-- Passes over blanks and comments and gathers the comments. There are at most as many steps as the
bound has characters. -/
def gapFrom (s : Spacing) : (bound : Text) → Cursor → List Node × Cursor
  | [], c => ([], c)
  | _ :: bound, c =>
    let c := c.skipBlanks s
    match Token.comment c.rest with
    | none => ([], c)
    | some (text, rest) =>
      let (comments, last) := gapFrom s bound (c.past text rest)
      (Node.leaf .comment c.offset text :: comments, last)

/-- The comments in front of the next token, and the place of that token. -/
def gap (c : Cursor) (s : Spacing) : List Node × Cursor :=
  gapFrom s c.rest c

end Cursor

namespace Parser

variable {α : Type}

/-- The comments in front of the next token, then what follows them. There is no next token where a
line break comes first that is a token itself. -/
def spaced (s : Spacing) (p : Parts) : Parts := fun c =>
  let (comments, c) := c.gap s
  if c.rest.head? == some '\n' then []
  else (p c).map fun r => { r with value := comments ++ r.value }

/-- The comments in front of the next token. -/
def comments (s : Spacing) : Parts := spaced s nothing

/-- A part of a construct in its role. -/
def part (s : Spacing) (role : Option Role) (p : Parser Node) : Parts :=
  spaced s fun c => (p c).map fun r => { r with value := [r.value.withRole role] }

/-- A construct of a kind, from its parts. -/
def construct (kind : Kind) (p : Parts) : Parser Node := fun c =>
  (p c).map fun r =>
    { r with value := Node.branch kind ⟨c.offset, r.cursor.offset⟩ r.value }

/-! ## Single tokens -/

/-- The character that, right after a mark, shows that the mark is only the beginning of a longer
one. -/
def continuation (mark : Text) : Option Char :=
  if mark = ['.'] then some '.'
  else if mark = [':'] || mark = ['='] then some '='
  else none

/-- A mark of punctuation, which is no node. -/
def mark (s : Spacing) (m : String) : Parts :=
  spaced s fun c =>
    let m := m.toList
    let rest := c.rest.drop m.length
    if m.isPrefixOf c.rest && !(rest.head?.isSome && rest.head? == continuation m) then
      [⟨[], 0, c.past m rest⟩]
    else []

/-- A keyword, which is no node. -/
def keyword (s : Spacing) (w : String) : Parts :=
  spaced s fun c =>
    match Token.word c.rest with
    | some (text, rest) => if text = w.toList then [⟨[], 0, c.past text rest⟩] else []
    | none => []

/-- A word that is none of the given keywords, as a name of the given kind. -/
def name (kind : Kind) (keywords : List String) : Parser Node := fun c =>
  match Token.word c.rest with
  | some (text, rest) =>
    if keywords.any fun w => text = w.toList then []
    else [⟨Node.leaf kind c.offset text, 0, c.past text rest⟩]
  | none => []

/-- A literal that is not written as a word. -/
def literal : Parser Node := fun c =>
  match Token.literal c.rest with
  | some (kind, text, rest) => [⟨Node.leaf kind c.offset text, 0, c.past text rest⟩]
  | none => []

/-- A string literal. -/
def stringLiteral : Parser Node := fun c =>
  match c.rest with
  | '"' :: _ => literal c
  | q :: _ => if q = Token.backquote then literal c else []
  | [] => []

/-- What ends a statement or an entry of a list: a line break, a semicolon or the character NUL. -/
def terminator : Parts := fun c =>
  let (comments, c) := c.gap .sameLine
  match c.rest with
  | d :: rest =>
    if d = '\n' || d = ';' || d = Token.nul then [⟨comments, 0, c.past [d] rest⟩] else []
  | [] => []

/-- One or more parts with commas between them. -/
def separated (p : Parts) : Parts :=
  p ++ many (mark .free "," ++ p)

/-- Entries that each end with a terminator, which may be left out after the last. -/
def entries (p : Parts) : Parts :=
  optional (p ++ many (terminator ++ p) ++ optional terminator)

end Parser

end RouteStubs.Syntax
