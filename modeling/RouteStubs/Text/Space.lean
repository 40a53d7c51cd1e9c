import RouteStubs.Text.Basic
import RouteStubs.Text.CodeRanges

/-!
# White space

The Unicode property `White_Space`, and texts without the white space around them. The blanks that
may stand between the tokens of a program are fewer: those are `Syntax.Token.isBlank`.
-/

namespace RouteStubs.Text

/-- The code points with the property `White_Space`. -/
def spaceRanges : CodeRanges := #[
  (0x9, 0xd), (0x20, 0x20), (0x85, 0x85), (0xa0, 0xa0), (0x1680, 0x1680), (0x2000, 0x200a),
  (0x2028, 0x2029), (0x202f, 0x202f), (0x205f, 0x205f), (0x3000, 0x3000)]

/-- A character of white space. -/
def isSpace (c : Char) : Bool :=
  spaceRanges.covers c

/-- The text without the white space in front. -/
def trimLeft (t : Text) : Text :=
  t.dropWhile isSpace

/-- The text without the white space at the end. -/
def trimRight (t : Text) : Text :=
  (t.reverse.dropWhile isSpace).reverse

/-- The text without the white space around it. -/
def trim (t : Text) : Text :=
  trimRight (trimLeft t)

end RouteStubs.Text
