import RouteStubs.Syntax.Statements

/-!
# Files

The rules of all phrases together, and the reading of a whole file. Statements may stand at the
outermost level of a file, and declarations may come in any order.
-/

namespace RouteStubs.Syntax

open RouteStubs.Syntax.Parser

/-- The rule of each phrase, in terms of the phrases it holds. -/
def rule (phrase : Phrases) : Phrases
  | .expression p => Expressions.expression phrase p
  | .operand p => Expressions.operand phrase p
  | .type s => Types.type phrase s
  | .block => Statements.block phrase
  | .statement position => Statements.statement phrase position
  | .literalValue => Expressions.literalValue phrase
  | .conditional => Statements.conditional phrase

/-- Reads a phrase in which phrases are nested less than `depth` deep. -/
def phraseWithin : (depth : Nat) → Phrases
  | 0 => fun _ => fail
  | depth + 1 => fun p => rule (phraseWithin depth) p

/-- One entry of a file: a declaration or a statement. -/
def outerEntry (phrase : Phrases) : Parts :=
  part .free none
    (fun c => Reading.heaviest (Declarations.outerDeclaration phrase c ++ outerStatement c))
where
  /-- A statement, unless a method or one of the words that begin declarations stands there. -/
  outerStatement : Parser Node := fun c =>
    if Declarations.opensMethod phrase c then []
    else
      guarding (fun t => !(Token.word t).any fun found =>
        ["package", "import"].any fun w => found.1 = w.toList) (phrase (.statement .outermost)) c

/-- The entries of a file. Only a declaration may go without a terminator, at the end. -/
def fileParts (phrase : Phrases) : Parts :=
  many (outerEntry phrase ++ terminator) ++
    optional (part .free none (Declarations.outerDeclaration phrase)) ++ comments .free

/-- A byte order mark at the beginning of a text is no part of it. -/
def withoutByteOrderMark (t : Text) : Cursor :=
  match t with
  | '\ufeff' :: rest => ⟨1, rest⟩
  | _ => ⟨0, t⟩

/-- No text has phrases nested deeper than this: at every fourth step at the latest a token is
passed. -/
def depthBound (t : Text) : Nat := 4 * t.length + 16

/-- The syntax tree of a file, if its text is well-formed. -/
def parseFile? (t : Text) : Option Node :=
  let readings := fileParts (phraseWithin (depthBound t)) (withoutByteOrderMark t)
  let whole := Reading.heaviest (readings.filter fun r => r.cursor.rest.isEmpty)
  whole.head?.map fun r => Node.branch .sourceFile ⟨0, t.length⟩ r.value

end RouteStubs.Syntax
