import RouteStubs.Text.Numeral

/-!
# Wildcards

Patterns for names and paths. A question mark stands for any character, an asterisk for any text, a
bracket for one character of a set or outside of it, and two asterisks, which have to make up a
whole component, for any number of directories.
-/

namespace RouteStubs

namespace Wildcard

/-- The characters from the first to the last one. -/
structure Range where
  first : Char
  last : Char
  deriving DecidableEq, Repr

/-- The character lies in one of the ranges. -/
def inRanges (ranges : List Range) (c : Char) : Bool :=
  ranges.any fun r => r.first ≤ c && c ≤ r.last

/-- A part of a pattern. -/
inductive Token where
  | char (c : Char)
  | anyChar
  | anyText
  | anyDirectories
  | within (ranges : List Range)
  | outside (ranges : List Range)
  deriving DecidableEq, Repr

/-- Why a text is no pattern. Places are counted in characters from zero. -/
inductive Fault where
  | longRun (place : Nat)
  | joinedRun (place : Nat)
  | badRange (place : Nat)
  deriving DecidableEq, Repr

/-- The wording of a fault. -/
def Fault.message : Fault → Text
  | .longRun n => atPlace n "wildcards are either regular `*` or recursive `**`"
  | .joinedRun n => atPlace n "recursive wildcards must form a single path component"
  | .badRange n => atPlace n "invalid range pattern"
where
  /-- The wording of a fault at a place. -/
  atPlace (place : Nat) (reason : String) : Text :=
    lit "Pattern syntax error near position " ++ Text.decimal place ++ lit ": " ++ lit reason

/-- The ranges that the inside of a bracket lists. A hyphen between two characters makes them the
ends of a range. -/
def ranges : Text → List Range
  | a :: '-' :: b :: rest => ⟨a, b⟩ :: ranges rest
  | a :: rest => ⟨a, a⟩ :: ranges rest
  | [] => []

/-- The inside of a bracket, which has at least one character, and what follows the bracket. -/
def bracket? : Text → Option (Text × Text)
  | [] => none
  | c :: rest =>
    match rest.dropWhile (· != ']') with
    | _ :: after => some (c :: rest.takeWhile (· != ']'), after)
    | [] => none

/-- What follows a bracket is shorter than what follows its beginning. -/
theorem length_lt_of_bracket? {t inside after : Text} (h : bracket? t = some (inside, after)) :
    after.length < t.length := by
  cases t with
  | nil => simp [bracket?] at h
  | cons c rest =>
    have hle : (rest.dropWhile (· != ']')).length ≤ rest.length :=
      (List.dropWhile_suffix _).length_le
    rw [bracket?] at h
    split at h
    · next hdrop =>
      simp only [Option.some.injEq, Prod.mk.injEq] at h
      rw [hdrop, h.2] at hle
      simp at hle ⊢
      omega
    · simp at h

/-- Reads the rest of a pattern, which begins at the given place after the given character. -/
def tokensFrom (place : Nat) (before : Option Char) (t : Text) : Except Fault (List Token) :=
  match t with
  | [] => .ok []
  | '*' :: '*' :: '*' :: _ => .error (.longRun (place + 2))
  | '*' :: '*' :: rest =>
    if before = none ∨ before = some '/' then
      match rest with
      | [] => .ok [.anyDirectories]
      | d :: more =>
        if d = '/' then (tokensFrom (place + 3) (some '/') more).map (.anyDirectories :: ·)
        else .error (.joinedRun (place + 2))
    else .error (.joinedRun (place - 1))
  | c :: rest =>
    if c = '*' then (tokensFrom (place + 1) (some c) rest).map (.anyText :: ·)
    else if c = '?' then (tokensFrom (place + 1) (some c) rest).map (.anyChar :: ·)
    else if c = '[' then
      let negated := rest.head? == some '!'
      let inner := if negated then rest.tail else rest
      match h : bracket? inner with
      | none => .error (.badRange place)
      | some (inside, after) =>
        have : after.length < rest.length + 1 := by
          have := length_lt_of_bracket? h
          have : inner.length ≤ rest.length := by
            simp only [inner]
            split <;> simp
          omega
        (tokensFrom (place + (rest.length - after.length) + 1) (some ']') after).map
          ((if negated then .outside (ranges inside) else .within (ranges inside)) :: ·)
    else (tokensFrom (place + 1) (some c) rest).map (.char c :: ·)
termination_by t.length

/-- All ends of a text, from the whole of it to the empty one. -/
def ends : Text → List Text
  | [] => [[]]
  | c :: rest => (c :: rest) :: ends rest

/-- The ends of a text that follow a slash. -/
def endsAfterSlash : Text → List Text
  | [] => []
  | c :: rest => if c = '/' then rest :: endsAfterSlash rest else endsAfterSlash rest

/-- What can be left of a text once a part of a pattern has matched a beginning of it. -/
def Token.rests : Token → Text → List Text
  | .anyText, t => ends t
  | .anyDirectories, t => t :: endsAfterSlash t ++ [[]]
  | .char _, [] | .anyChar, [] | .within _, [] | .outside _, [] => []
  | .char c, d :: rest => if c = d then [rest] else []
  | .anyChar, _ :: rest => [rest]
  | .within ranges, d :: rest => if inRanges ranges d then [rest] else []
  | .outside ranges, d :: rest => if inRanges ranges d then [] else [rest]

end Wildcard

/-- A pattern for names and paths. -/
structure Wildcard where
  tokens : List Wildcard.Token
  deriving DecidableEq, Repr

namespace Wildcard

/-- Reads a pattern. -/
def parse (t : Text) : Except Fault Wildcard :=
  (tokensFrom 0 none t).map Wildcard.mk

/-- The pattern matches the whole text. -/
def accepts (w : Wildcard) (t : Text) : Bool :=
  (w.tokens.foldl (fun rests token => (rests.flatMap token.rests).eraseDups) [t]).any List.isEmpty

/-- The pattern stands for any number of directories. -/
def spansDirectories (w : Wildcard) : Bool :=
  w.tokens.contains .anyDirectories

/-- The only text that the pattern matches, if it is made of plain characters. -/
def literal? (w : Wildcard) : Option Text :=
  w.tokens.mapM fun
    | .char c => some c
    | _ => none

end Wildcard

end RouteStubs
