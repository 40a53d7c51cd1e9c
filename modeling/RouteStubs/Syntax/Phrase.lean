import RouteStubs.Syntax.Reading

/-!
# Phrases

The phrases of the language refer to each other: a statement holds expressions, and an expression
can hold a function with statements. Each module of the grammar gives the rules of some phrases and
takes the parser for all phrases as an argument; `Syntax.File` ties the knot.

The same words can be read differently depending on what may follow. A `Place` says what may follow
an expression: that decides whether a line break ends it, whether `--` is one mark or two, and
whether an opening brace belongs to it.
-/

namespace RouteStubs.Syntax

/-- What may follow an expression. -/
structure Place where
  /-- A line break ends the expression. -/
  endsWithLine : Bool
  /-- A block follows the expression. -/
  beforeBlock : Bool
  /-- The marks `++` and `--` may follow. -/
  beforeStep : Bool
  /-- The mark `<-` may follow. -/
  beforeSend : Bool
  /-- The words `.(type)` of a type switch may follow. -/
  beforeTypeSwitch : Bool
  deriving DecidableEq, Repr, Inhabited

namespace Place

/-- Inside brackets, or wherever something other than a line break or a block has to follow. -/
def inner : Place := ⟨false, false, false, false, false⟩

/-- At the end of a statement. -/
def atEnd : Place := { inner with endsWithLine := true }

/-- In front of a block. -/
def header : Place := { inner with beforeBlock := true }

/-- The blanks that may be passed over when looking for what follows. -/
def spacing (p : Place) : Spacing := if p.endsWithLine then .sameLine else .free

/-- The same place for an operand that does not stand alone. -/
def asOperand (p : Place) : Place := { p with beforeTypeSwitch := false }

/-- The place of the first expression of a simple statement. -/
def opening (p : Place) : Place := { p with beforeStep := true, beforeSend := true }

end Place

/-- Where a statement stands. -/
inductive Position where
  /-- At the outermost level of a file. -/
  | outermost
  /-- At the beginning of a block. -/
  | first
  /-- After another statement, after a label, or in a clause. -/
  | later
  deriving DecidableEq, Repr, Inhabited

/-- The words that begin the clauses of a switch. -/
def clauseWords : List String := ["case", "default"]

/-- The words that begin statements of their own. -/
def statementWords : List String :=
  ["const", "var", "type", "return", "go", "defer", "if", "for", "switch", "select", "fallthrough",
    "break", "continue", "goto"]

/-- The words that begin clauses at a position; elsewhere they are names. -/
def Position.clauseWords : Position → List String
  | .later => Syntax.clauseWords
  | _ => []

/-- The position of the statement under a label. -/
def Position.underLabel : Position → Position
  | .outermost => .outermost
  | _ => .later

/-- A phrase that other phrases may hold. -/
inductive Phrase where
  /-- An expression. -/
  | expression (place : Place)
  /-- An expression without binary operators at its outermost level. -/
  | operand (place : Place)
  /-- A type, after which a line break is a blank or ends it. -/
  | type (spacing : Spacing)
  /-- Statements between braces. -/
  | block
  /-- A statement. -/
  | statement (position : Position)
  /-- Elements between braces. -/
  | literalValue
  /-- A conditional statement. -/
  | conditional
  deriving DecidableEq, Repr, Inhabited

/-- How to read each phrase. -/
abbrev Phrases : Type := Phrase → Parser Node

/-- The words that begin a type. -/
def typeWords : List String := ["struct", "interface", "map", "chan", "func"]

/-- The words that stand for values where an expression may begin. -/
def valueWords : List String := ["new", "make", "nil", "true", "false", "iota"]

/-- The words that are no names where an expression begins. -/
def expressionWords : List String := typeWords ++ valueWords

end RouteStubs.Syntax
