import RouteStubs.Syntax.Declarations

/-!
# Statements

The rules for statements. A simple statement begins with an expression, and only what follows it
tells an assignment from a definition, a step, a send or a plain expression, so the expression is
read once. Headers of conditionals, loops and switches begin in the same way.
-/

namespace RouteStubs.Syntax.Statements

open RouteStubs.Syntax.Parser Expressions

/-! ## Simple statements -/

/-- Where the expressions of a simple statement stand. -/
structure Setting where
  /-- The place of the first expression. -/
  first : Place
  /-- The place of the values on the right-hand side. -/
  values : Place
  /-- The word `range` may follow an assigning mark. -/
  ranges : Bool
  deriving Inhabited

/-- A simple statement that stands by itself. -/
def Setting.statement : Setting := ⟨Place.atEnd.opening, .atEnd, false⟩

/-- A simple statement that opens the header of a conditional. -/
def Setting.opening : Setting := ⟨Place.header.opening, .inner, false⟩

/-- A simple statement that opens the header of a loop. -/
def Setting.loop : Setting := ⟨Place.header.opening, .inner, true⟩

/-- The simple statement after each round of a loop. -/
def Setting.update : Setting := ⟨Place.header.opening, .header, false⟩

/-- A simple statement that opens the header of a switch. -/
def Setting.switch : Setting :=
  ⟨{ Place.header.opening with beforeTypeSwitch := true },
    { Place.inner with beforeTypeSwitch := true }, false⟩

/-- The value of a switch, after its simple statement. -/
def Setting.switchValue : Setting :=
  ⟨{ Place.header with beforeTypeSwitch := true },
    { Place.inner with beforeTypeSwitch := true }, false⟩

/-- The values of a range clause. -/
def ranged (phrase : Phrases) : Parts :=
  keyword .free "range" ++ part .free (some .right) (phrase (.expression .header))

/-- The next word is `range`. -/
def rangeFollows (c : Cursor) : Bool := !(keyword .free "range" c).isEmpty

/-- What follows the left-hand sides of an assignment: its mark and the values. -/
def assigned (phrase : Phrases) (s : Setting) (spacing : Spacing) :
    Parser (Kind × List Node) := fun c =>
  let (before, d) := c.gap spacing
  let mark? : Option (String × Kind) :=
    if begins ":=" d.rest then some (":=", .shortVarDeclaration)
    else (assignmentMark d.rest).map fun m => (m, .assignmentStatement)
  match mark? with
  | none => []
  | some (m, kind) =>
    let e := d.past m.toList (d.rest.drop m.toList.length)
    let range := s.ranges && (m == ":=" || m == "=") && rangeFollows e
    let values : Parts :=
      if range then ranged phrase
      else part .free (some .right) (expressionList phrase s.values)
    (values e).map fun r =>
      { r with value := (if range then .rangeClause else kind, before ++ r.value) }

/-- Further left-hand sides after the first. No statement ends before they are assigned to. -/
def otherTargets (phrase : Phrases) (s : Setting) : Parts :=
  let target : Parts := part .free none (phrase (.expression .inner))
  mark s.first.spacing "," ++ target ++ many (mark .free "," ++ target)

/-- What follows the first expression of a simple statement: its kind and its parts. -/
def simpleTail (phrase : Phrases) (s : Setting) (left : Node) : Parser (Kind × List Node) :=
  let space := s.first.spacing
  let plain (kind : Kind) (p : Parts) : Parser (Kind × List Node) :=
    andThen p fun parts => done (kind, left :: parts)
  let targets (others : List Node) (stop : Nat) : Node :=
    (Node.branch .expressionList ⟨left.span.start, stop⟩ (left :: others)).withRole (some .left)
  let several : Parser (Kind × List Node) := fun c =>
    (otherTargets phrase s c).flatMap fun r =>
      (assigned phrase s .free r.cursor).map fun a =>
        { a with
          value := (a.value.1, targets r.value r.cursor.offset :: a.value.2)
          weight := r.weight + a.weight }
  let single : Parser (Kind × List Node) :=
    andThen (assigned phrase s space) fun a => done (a.1, targets [] left.span.stop :: a.2)
  let sent : Parts := mark space "<-" ++ part .free (some .value) (phrase (.expression s.values))
  if s.first.beforeStep then
    plain .incStatement (mark space "++") <|> plain .decStatement (mark space "--") <|>
      plain .sendStatement sent <|> several <|> single <|> plain .expressionStatement nothing
  else several <|> single <|> plain .expressionStatement nothing

/-- A simple statement. -/
def simple (phrase : Phrases) (s : Setting) : Parser Node := fun c =>
  (phrase (.expression s.first) c).flatMap fun r =>
    (simpleTail phrase s r.value r.cursor).map fun t =>
      { value := Node.branch t.value.1 ⟨c.offset, t.cursor.offset⟩ t.value.2
        weight := r.weight + t.weight
        cursor := t.cursor }

/-- The expression of a statement that consists of one. -/
def soleExpression (n : Node) : Option Node :=
  if n.kind == .expressionStatement then n.children.head? else none

/-! ## Labels and jumps -/

/-- A label and its colon. -/
def label (position : Position) : Parts :=
  part .free none
      (name .labelName (expressionWords ++ statementWords ++ position.clauseWords)) ++
    mark .sameLine ":"

/-- A statement under a label. -/
def labeled (phrase : Phrases) (position : Position) : Parser Node :=
  construct .labeledStatement
    (label position ++ part .free none (phrase (.statement position.underLabel)))

/-- A label without a statement, at the end of a list of statements. -/
def emptyLabel (position : Position) : Parts :=
  part .free none (construct .labeledStatement (label position))

/-- A jump, perhaps to a label. -/
def jump (kind : Kind) (word : String) : Parser Node :=
  construct kind
    (keyword .free word ++ optional (part .sameLine none (name .labelName clauseWords)))

/-! ## Lists of statements -/

/-- The outline of a list of statements, given its first statement: whether it is the only one, how
many comments follow it on its line if not, and the outline of the statement itself. -/
def listOutline (first chain : Reading (List Node)) : List Nat :=
  let more :=
    if chain.cursor = first.cursor then 0 else 1 + (first.cursor.gap .sameLine).1.length
  more :: Node.outlines first.value

/-- Statements with terminators between them. The first statement can have several readings, of
which one ends at a line break that another takes for a blank. Where such readings lead to the same
end with the same weight, the one with the smallest outline is kept. -/
def statementChains (phrase : Phrases) (position : Position) : Parts := fun c =>
  let further : Parts := terminator ++ part .free none (phrase (.statement .later))
  match heaviest (part .free none (phrase (.statement position))) c with
  | [first] => manyFrom further c.rest [first]
  | firsts =>
    let chains : List (List Nat × Reading (List Node)) := firsts.flatMap fun first =>
      (manyFrom further c.rest [first]).map fun chain => (listOutline first chain, chain)
    Reading.heaviest ((chains.mergeSort fun a b => (compare a.1 b.1).isLE).map (·.2))

/-- The statements of a block or a clause. -/
def statements (phrase : Phrases) (position : Position) : Parts :=
  optional
    ((statementChains phrase position ++ optional (terminator ++ optional (emptyLabel .later))) <|>
      emptyLabel position)

/-- Statements between braces. -/
def block (phrase : Phrases) : Parser Node :=
  heaviest
    (construct .block (mark .free "\x7b" ++ statements phrase .first ++ mark .free "\x7d"))

/-! ## Conditionals and loops -/

/-- A simple statement and a semicolon, then an expression; or only the expression. -/
def conditionHeader (phrase : Phrases) : Parts := fun c =>
  let (comments, c) := c.gap .free
  (simple phrase .opening c).flatMap fun r =>
    let after : List (Reading (List Node)) :=
      match (mark .free ";" ++ part .free none (phrase (.expression .header))) r.cursor with
      | [] =>
        (soleExpression r.value).toList.map fun e => { r with value := [e], weight := 0 }
      | readings => readings.map fun t => { t with value := r.value :: t.value }
    after.map fun t => { t with value := comments ++ t.value, weight := r.weight + t.weight }

/-- A conditional with its alternatives. -/
def conditional (phrase : Phrases) : Parser Node :=
  construct .ifStatement
    (keyword .free "if" ++ conditionHeader phrase ++ part .free none (phrase .block) ++
      optional
        (keyword .sameLine "else" ++
          part .free none
            (guarding (fun t => t.head? == some '\x7b') (phrase .block) <|> phrase .conditional)))

/-- The condition and the update of a loop, after its first semicolon. -/
def loopClauses (phrase : Phrases) : Parts :=
  optional (part .free none (phrase (.expression .inner))) ++ mark .free ";" ++
    optional (part .free none (simple phrase .update))

/-- What stands between the word `for` and the body of a loop. -/
def loopHeader (phrase : Phrases) : Parts :=
  let bare : Parts :=
    part .free none (construct .forClause (mark .free ";" ++ loopClauses phrase))
  let range : Parts := part .free none (construct .rangeClause (ranged phrase))
  let simpleFirst : Parts := fun c =>
    let (comments, c) := c.gap .free
    (simple phrase .loop c).flatMap fun r =>
      let readings : List (Reading (List Node)) :=
        match (mark .free ";" ++ loopClauses phrase) r.cursor with
        | [] =>
          let sole :=
            if r.value.kind == .rangeClause then some r.value else soleExpression r.value
          sole.toList.map fun e => { r with value := [e], weight := 0 }
        | clauses => clauses.map fun t =>
          { t with
            value :=
              [Node.branch .forClause ⟨c.offset, t.cursor.offset⟩ (r.value :: t.value)] }
      readings.map fun t => { t with value := comments ++ t.value, weight := r.weight + t.weight }
  fun c =>
    let d := (c.gap .free).2
    match d.rest with
    | '\x7b' :: _ => nothing c
    | ';' :: _ => bare c
    | _ => if rangeFollows c then range c else simpleFirst c

/-- A loop. -/
def loop (phrase : Phrases) : Parser Node :=
  construct .forStatement
    (keyword .free "for" ++ loopHeader phrase ++ part .free (some .body) (phrase .block))

/-! ## Switches -/

/-- The clauses of a switch between braces. -/
def clauses (clause : Parts) : Parts :=
  mark .free "\x7b" ++ many clause ++ mark .free "\x7d"

/-- A colon and the statements of a clause. -/
def clauseBody (phrase : Phrases) : Parts := mark .free ":" ++ statements phrase .later

/-- The clause for all remaining cases. -/
def defaultCase (phrase : Phrases) : Parts :=
  part .free none (construct .defaultCase (keyword .free "default" ++ clauseBody phrase))

/-- A clause of a switch on values. -/
def expressionCase (phrase : Phrases) : Parts :=
  part .free none
    (construct .expressionCase
      (keyword .free "case" ++ part .free (some .value) (expressionList phrase .inner) ++
        clauseBody phrase)) <|> defaultCase phrase

/-- A clause of a switch on types. -/
def typeCase (phrase : Phrases) : Parts :=
  part .free none
    (construct .typeCase
      (keyword .free "case" ++ separated (part .free (some .type) (phrase (.type .free))) ++
        clauseBody phrase)) <|> defaultCase phrase

/-- The words `.(type)`. -/
def typeMark : Parts :=
  mark .free "." ++ mark .free "(" ++ keyword .free "type" ++ mark .free ")"

/-- The parts of the header of a switch on types, from the statement in front of `.(type)`: the
value, perhaps after a name for it. -/
def typeSwitchParts (n : Node) : Option (List Node) :=
  match soleExpression n with
  | some e => some [e]
  | none =>
    if n.kind == .shortVarDeclaration then
      match n.children.getLast? with
      | some values =>
        match values.children.filter fun v => !v.isComment with
        | [_] => some (n.children.dropLast ++ values.children)
        | _ => none
      | none => none
    else none

/-- A switch without a value. -/
def switchOnNothing (phrase : Phrases) : Parser (Kind × List Node) :=
  andThen (clauses (expressionCase phrase)) fun parts => done (.expressionSwitchStatement, parts)

/-- What follows a simple statement in the header of a switch, when the statement gives the value or
the type to switch on. -/
def switchOn (phrase : Phrases) (n : Node) : Parser (Kind × List Node) := fun c =>
  let onTypes : List (Reading (Kind × List Node)) :=
    (typeSwitchParts n).toList.flatMap fun parts =>
      ((typeMark ++ clauses (typeCase phrase)) c).map fun t =>
        { t with value := (.typeSwitchStatement, parts ++ t.value) }
  let onValues : List (Reading (Kind × List Node)) :=
    (soleExpression n).toList.flatMap fun e =>
      (clauses (expressionCase phrase) c).map fun t =>
        { t with value := (.expressionSwitchStatement, e :: t.value) }
  onTypes ++ onValues

/-- Reads a simple statement and goes on with it. -/
def afterSimple (phrase : Phrases) (s : Setting) (f : Node → Parser (Kind × List Node)) :
    Parser (Kind × List Node) := fun c =>
  let (comments, c) := c.gap .free
  (andThen (simple phrase s) f c).map fun t =>
    { t with value := (t.value.1, comments ++ t.value.2) }

/-- What follows the word `switch`: the kind of the switch and its parts. A simple statement before
a semicolon may come first. -/
def switchTail (phrase : Phrases) : Parser (Kind × List Node) :=
  switchOnNothing phrase <|>
    afterSimple phrase .switch fun n =>
      either (switchOn phrase n)
        (andThen (mark .free ";") fun before =>
          andThen (switchOnNothing phrase <|> afterSimple phrase .switchValue (switchOn phrase))
            fun t => done (t.1, n :: before ++ t.2))

/-- A switch on values or types. Of equally heavy readings the one on values is kept. -/
def switch (phrase : Phrases) : Parser Node := fun c =>
  let found := (andThen (keyword .free "switch") (fun _ => switchTail phrase) c).map fun t =>
    { t with value := Node.branch t.value.1 ⟨c.offset, t.cursor.offset⟩ t.value.2 }
  let onTypes (r : Reading Node) : Bool := r.value.kind == .typeSwitchStatement
  Reading.heaviest ((found.filter fun r => !onTypes r) ++ found.filter onTypes)

/-- What a clause of a select waits for. -/
def communication (phrase : Phrases) : Parser Node := fun c =>
  let first : Place := { Place.inner with beforeSend := true }
  let s : Setting := ⟨first, .inner, false⟩
  (phrase (.expression first) c).flatMap fun r =>
    let sent : Parser (Kind × List Node) :=
      andThen (mark .free "<-" ++ part .free (some .value) (phrase (.expression .inner)))
        fun parts => done (.sendStatement, r.value :: parts)
    let received : Parser (Kind × List Node) := fun d =>
      (optional (otherTargets phrase s) d).flatMap fun o =>
        let targets :=
          (Node.branch .expressionList ⟨c.offset, o.cursor.offset⟩ (r.value :: o.value)).withRole
            (some .left)
        (((mark .free ":=" <|> mark .free "=") ++
          part .free (some .right) (phrase (.expression .inner))) o.cursor).map fun t =>
            { t with
              value := (.receiveStatement, targets :: t.value)
              weight := o.weight + t.weight }
    let awaited : Parser (Kind × List Node) := done (.receiveStatement, [r.value])
    ((sent <|> received <|> awaited) r.cursor).map fun t =>
      { value := Node.branch t.value.1 ⟨c.offset, t.cursor.offset⟩ t.value.2
        weight := r.weight + t.weight
        cursor := t.cursor }

/-- A clause of a select. -/
def communicationCase (phrase : Phrases) : Parts :=
  part .free none
    (construct .communicationCase
      (keyword .free "case" ++ part .free none (communication phrase) ++ clauseBody phrase)) <|>
    defaultCase phrase

/-- A select. -/
def select (phrase : Phrases) : Parser Node :=
  construct .selectStatement (keyword .free "select" ++ clauses (communicationCase phrase))

/-! ## All statements -/

/-- A word and an expression. -/
def withExpression (phrase : Phrases) (kind : Kind) (word : String) : Parser Node :=
  construct kind (keyword .free word ++ part .free none (phrase (.expression .atEnd)))

/-- The end of a function, perhaps with its results. -/
def return_ (phrase : Phrases) : Parser Node :=
  construct .returnStatement
    (keyword .free "return" ++
      optional
        (part .sameLine none
          (guarding (fun t => !clauseWords.any fun w => isWord w t)
            (expressionList phrase .atEnd))))
where
  /-- The next word is `w`. -/
  isWord (w : String) (t : Text) : Bool :=
    (Token.word t).any fun found => found.1 = w.toList

/-- The statement that begins with a word of its own. -/
def wordStatement (phrase : Phrases) (word : Text) : Option (Parser Node) :=
  let rules : List (String × Parser Node) :=
    [ ("const", Declarations.constDeclaration phrase),
      ("var", Declarations.varDeclaration phrase),
      ("type", Declarations.typeDeclaration phrase),
      ("return", return_ phrase),
      ("go", withExpression phrase .goStatement "go"),
      ("defer", withExpression phrase .deferStatement "defer"),
      ("if", phrase .conditional),
      ("for", loop phrase),
      ("switch", switch phrase),
      ("select", select phrase),
      ("fallthrough", construct .fallthroughStatement (keyword .free "fallthrough")),
      ("break", jump .breakStatement "break"),
      ("continue", jump .continueStatement "continue"),
      ("goto", construct .gotoStatement
        (keyword .free "goto" ++ part .free none (name .labelName []))) ]
  (rules.find? fun r => r.1.toList = word).map (·.2)

/-- A statement. -/
def statement (phrase : Phrases) (position : Position) : Parser Node := fun c =>
  match c.rest with
  | '\x7b' :: _ => phrase .block c
  | ';' :: _ => construct .emptyStatement (mark .free ";") c
  | _ =>
    match Token.word c.rest with
    | none => simple phrase .statement c
    | some (word, _) =>
      if position.clauseWords.any fun w => word = w.toList then []
      else
        match wordStatement phrase word with
        | some rule => rule c
        | none =>
          if (label position c).isEmpty then simple phrase .statement c
          else labeled phrase position c

end RouteStubs.Syntax.Statements
