import RouteStubs.Syntax.File
import RouteStubs.Text.Space
import RouteStubs.Text.Utf8

/-!
# Faults of a source text

What is wrong with a text that is no well-formed file, and where. Lines and columns are counted from
one, and columns in bytes.
-/

namespace RouteStubs.Syntax

/-- A place in a text. -/
structure Location where
  line : Nat
  column : Nat
  deriving DecidableEq, Repr, Inhabited

/-- The place right after a beginning of a text. -/
def Location.after (beginning : Text) : Location :=
  let lastLine := (beginning.reverse.takeWhile (· != '\n')).reverse
  ⟨beginning.count '\n' + 1, Text.byteLength lastLine + 1⟩

/-- What is wrong with a text. -/
inductive Defect where
  | unexpected (snippet : Text)
  | missing (mark : Text)
  | noPackage
  deriving DecidableEq, Repr, Inhabited

/-- The wording of a defect. -/
def Defect.message : Defect → Text
  | .unexpected snippet => lit "unexpected '" ++ snippet ++ lit "'"
  | .missing mark => lit "missing " ++ mark
  | .noPackage => lit "expected 'package'"

/-- A defect and its place. -/
structure Fault where
  location : Location
  defect : Defect
  deriving DecidableEq, Repr, Inhabited

namespace Fault

/-- What is shown of a faulty stretch of text: its first line without the white space around it, cut
after forty characters. -/
def snippet (t : Text) : Text :=
  (Text.trim (t.takeWhile (· != '\n'))).take 40

/-- The marks that operators and punctuation consist of. -/
def marks : List Char := "+-*/%&|^<>=!:.,;()[]\x7b\x7d~".toList

/-- A character that begins no token and stands between none. -/
def isStray (c : Char) : Bool :=
  !(Token.isBlank c || c == Token.nul || Text.isIdentifierStart c || c.isDigit ||
    c == '"' || c == '\'' || c == Token.backquote || marks.contains c)

/-- What follows the token, or the single character, at the front of a text. -/
def pastToken (t : Text) : Text :=
  match (Token.comment t).orElse fun _ => Token.word t with
  | some (_, rest) => rest
  | none =>
    match Token.literal t with
    | some (_, _, rest) => rest
    | none => t.tail

/-- What is left of a text from its first stray character on, if it has one outside comments and
literals. The number bounds the steps. -/
def fromStray? : Nat → Text → Option Text
  | 0, _ => none
  | _, [] => none
  | n + 1, c :: t => if isStray c then some (c :: t) else fromStray? n (pastToken (c :: t))

/-- What is wrong with a text that is no well-formed file. Stray characters come first; then a brace
that is missing at the end; in all other cases the text as a whole is faulty. -/
def diagnose (t : Text) : Fault :=
  let start := (withoutByteOrderMark t).rest
  match fromStray? (start.length + 1) start with
  | some rest =>
    ⟨Location.after (t.take (t.length - rest.length)),
      .unexpected (snippet (rest.takeWhile isStray))⟩
  | none =>
    if (parseFile? (t ++ ['\x7d'])).isSome then ⟨Location.after t, .missing ['\x7d']⟩
    else
      let blanks := start.takeWhile Token.isBlank
      ⟨Location.after (t.take (t.length - start.length + blanks.length)),
        .unexpected (snippet (start.drop blanks.length))⟩

end Fault

end RouteStubs.Syntax
