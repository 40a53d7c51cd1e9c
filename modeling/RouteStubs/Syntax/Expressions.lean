import RouteStubs.Syntax.Types

/-!
# Expressions

The rules for expressions. An operand such as `p.T[K]` can be a value, a type, or a value with type
arguments that waits for its call, and only what follows tells which. So an operand is read once,
and a `View` keeps what it can be; each suffix turns one view into the next. At the end the heaviest
reading as an expression remains.

A view of an operand as a type does not end with the line: once it can only be followed by a
conversion, an instantiation or a literal, a line break in between is a blank.
-/

namespace RouteStubs.Syntax.Expressions

open RouteStubs.Syntax.Parser

/-! ## Operators -/

/-- The binary operators with their binding strengths. Where one begins with another it stands
before it. -/
def binaryOperators : List (String × Nat) :=
  [("&&", 2), ("||", 1), ("==", 3), ("!=", 3), ("<=", 3), (">=", 3), ("<<", 5), (">>", 5),
    ("&^", 5), ("<", 3), (">", 3), ("+", 4), ("-", 4), ("|", 4), ("^", 4), ("*", 5), ("/", 5),
    ("%", 5), ("&", 5)]

/-- The marks that assign. Where one begins with another it stands before it. -/
def assignmentMarks : List String :=
  ["<<=", ">>=", "&^=", "*=", "/=", "%=", "&=", "+=", "-=", "|=", "^=", "="]

/-- The text begins with the mark. -/
def begins (mark : String) (t : Text) : Bool := mark.toList.isPrefixOf t

/-- The assigning mark at the front of a text. -/
def assignmentMark (t : Text) : Option String :=
  if begins "==" t then none else assignmentMarks.find? fun m => begins m t

/-- The binary operator at the front of a text, with its binding strength, at a place where longer
marks may be possible. -/
def binaryOperator (p : Place) (t : Text) : Option (String × Nat) :=
  if p.beforeStep && (begins "++" t || begins "--" t) then none
  else if p.beforeSend && begins "<-" t then none
  else if (assignmentMark t).isSome then none
  else binaryOperators.find? fun o => begins o.1 t

/-! ## Arguments -/

/-- An argument, or a value that is spread over the remaining parameters. -/
def argument (phrase : Phrases) : Parser Node := fun c =>
  (phrase (.expression .inner) c).flatMap fun r =>
    match mark .free "..." r.cursor with
    | [] => [r]
    | spread =>
      spread.map fun s =>
        { value := Node.branch .variadicArgument ⟨c.offset, s.cursor.offset⟩ (r.value :: s.value)
          weight := r.weight
          cursor := s.cursor }

/-- The arguments of a call. -/
def arguments (phrase : Phrases) : Parser Node :=
  construct .argumentList
    (mark .free "(" ++
      optional (separated (part .free none (argument phrase)) ++ optional (mark .free ",")) ++
      mark .free ")")

/-- The arguments of a call that takes a type first. -/
def typeFirstArguments (phrase : Phrases) : Parser Node :=
  construct .argumentList
    (mark .free "(" ++
      optional
        (part .free none (phrase (.type .free)) ++
          many (mark .free "," ++ part .free none (phrase (.expression .inner))) ++
          optional (mark .free ",")) ++
      mark .free ")")

/-- The single operand between the parentheses, if there is exactly one and it is not spread. -/
def singleOperand (arguments : Node) : Bool :=
  match arguments.children.filter fun n => !n.isComment with
  | [n] => n.kind != .variadicArgument
  | _ => false

/-! ## Literals with elements -/

/-- An element of a literal. -/
def literalElement (phrase : Phrases) : Parser Node :=
  construct .literalElement
    (part .free none
      (guarding (fun t => t.head? == some '\x7b') (phrase .literalValue) <|>
        phrase (.expression .inner)))

/-- An element of a literal, perhaps under a key. -/
def keyedElement (phrase : Phrases) : Parser Node :=
  fun c => (literalElement phrase c).flatMap fun key =>
    let keyed : List (Reading Node) :=
      (mark .free ":" ++ part .free (some .value) (literalElement phrase)) key.cursor |>.map
        fun r =>
          { r with
            value := Node.branch .keyedElement ⟨c.offset, r.cursor.offset⟩ (key.value :: r.value)
            weight := key.weight + r.weight }
    if keyed.isEmpty then [key] else keyed

/-- The elements of a literal between braces, perhaps with a comma after the last. -/
def literalValue (phrase : Phrases) : Parser Node :=
  construct .literalValue
    (mark .free "\x7b" ++ optional (separated (part .free none (keyedElement phrase))) ++
      optional (mark .free ",") ++ mark .free "\x7d")

/-! ## Views -/

/-- What an operand can be, with weights. -/
structure View where
  /-- The operand as an expression. -/
  expression : Option (Node × Int)
  /-- The operand as a type that stands by itself. -/
  type : Option (Node × Int)
  /-- The operand as the function and the type arguments of a call, as parts of the call. -/
  function : Option (List Node × Int)

namespace View

/-- An operand that is only an expression. -/
def ofExpression (n : Node) (weight : Int) : View := ⟨some (n, weight), none, none⟩

/-- An operand that is only a type. -/
def ofType (n : Node) (weight : Int) : View := ⟨none, some (n, weight), none⟩

/-- A name can be the name of a value and the name of a type. -/
def ofName (n : Node) : View := ⟨some (n, 0), some (n.withKind .typeIdentifier, -1), none⟩

/-- An operand that is nothing. -/
def isVoid (v : View) : Bool :=
  v.expression.isNone && v.type.isNone && v.function.isNone

/-- The operand ends here, as an expression. -/
def ended (v : View) : Parser Node := fun c =>
  v.expression.toList.map fun (e, w) => ⟨e, w, c⟩

/-- What remains of a view after a line break at a place where one ends expressions: a name by
itself is not taken for a type across lines. -/
def acrossLine (v : View) : View :=
  ⟨none, v.type.filter fun t => t.1.kind != .typeIdentifier, v.function⟩

end View

/-- The weight of a type to which something is applied; only a name that stands for a type by itself
weighs less than nothing. -/
def appliedWeight (t : Node × Int) : Int :=
  if t.1.kind == .typeIdentifier then t.2 + 1 else t.2

/-- The heaviest of some ways to build a node, the first if several are equally heavy. -/
def heaviestOf (ways : List (Node × Int)) : Option (Node × Int) :=
  ways.foldl
    (fun best way =>
      match best with
      | some b => if b.2 < way.2 then some way else best
      | none => some way)
    none

/-- The types that can be followed by the elements of a literal. -/
def takesElements (type : Node) : Bool :=
  type.kind ∈ [.mapType, .sliceType, .arrayType, .implicitLengthArrayType, .structType,
    .typeIdentifier, .genericType, .qualifiedType]

/-- The types that can stand by themselves; an array without a length only begins a literal. -/
def standsAlone (type : Node) : Bool :=
  type.kind != .implicitLengthArrayType

/-- After an opening bracket, and perhaps marks that stand before types and values alike, a word
follows that is a value wherever a value may stand. The bound has a character for each mark. -/
def valueFollows : (bound : Text) → Cursor → Bool
  | [], _ => false
  | _ :: bound, c =>
    let d := (c.gap .free).2
    match d.rest with
    | '(' :: rest => valueFollows bound (d.past ['('] rest)
    | '*' :: rest => valueFollows bound (d.past ['*'] rest)
    | t => (Token.word t).any fun w => valueWords.any fun v => w.1 = v.toList

/-- The same, from the opening bracket on. -/
def beginsWithValue (c : Cursor) : Bool :=
  valueFollows c.rest (c.past (c.rest.take 1) (c.rest.drop 1))

/-! ## Brackets -/

/-- What stands between brackets after a value: an index, or the bounds of a slice. -/
def indexOrBounds (phrase : Phrases) : Parser (Kind × List Node) :=
  let bound : Parts := part .free none (phrase (.expression .inner))
  let index : Parts := part .free (some .index) (phrase (.expression .inner))
  let close : Parts := mark .free "]"
  andThen (mark .free "[") fun opened =>
    andThen (optional index) fun first =>
      let indexed : Parser (Kind × List Node) :=
        if first.isEmpty then fail
        else andThen close fun closed => done (.indexExpression, opened ++ first ++ closed)
      let bounds : Parts :=
        mark .free ":" ++
          ((bound ++ mark .free ":" ++ bound ++ close) <|> (optional bound ++ close))
      indexed <|>
        andThen bounds fun others =>
          done (.sliceExpression, opened ++ first.map (·.withRole none) ++ others)

/-- Type arguments with their parts as types, when each of them is a single type. -/
def singleTypes (arguments : Node) : Option (List Node) :=
  (arguments.children.mapM fun (n : Node) =>
    if n.kind == .typeElem then
      match n.children with
      | [t] => some t
      | _ => none
    else some n)

/-! ## Suffixes -/

/-- The parts of a construct around an operand. -/
def around (start : Nat) (kind : Kind) (parts : List Node) (stop : Cursor) : Node :=
  Node.branch kind ⟨start, stop.offset⟩ parts

/-- A member after a dot. -/
def member (start : Nat) (v : View) (before : List Node) : Parser View := fun c =>
  let (comments, c) := c.gap .free
  (name .fieldIdentifier [] c).map fun r =>
    let parts (operand field : Node) : List Node := operand :: before ++ comments ++ [field]
    let selected : Option (Node × Int) := v.expression.map fun (n, w) =>
      (around start .selectorExpression
        (parts (n.withRole (some .operand)) (r.value.withRole (some .field))) r.cursor, w)
    let qualified : Option (Node × Int) := v.type.bind fun (n, w) =>
      if n.kind == .typeIdentifier then
        some (around start .qualifiedType
          (parts ((n.withKind .packageIdentifier).withRole (some .package))
            ((r.value.withKind .typeIdentifier).withRole (some .name))) r.cursor, w + 1)
      else none
    { r with value := ⟨selected, qualified, none⟩ }

/-- The type that a value is asserted to have, after a dot. -/
def assertion (phrase : Phrases) (start : Nat) (v : View) (before : List Node) : Parser View :=
  fun c =>
    match v.expression with
    | none => []
    | some (n, w) =>
      ((mark .free "(" ++ part .free none (phrase (.type .free)) ++ mark .free ")") c).map
        fun r =>
          { r with
            value :=
              .ofExpression
                (around start .typeAssertionExpression
                  (n.withRole (some .operand) :: before ++ r.value) r.cursor)
                (w + r.weight)
            weight := 0 }

/-- Brackets after an operand. -/
def brackets (phrase : Phrases) (start : Nat) (v : View) (before : List Node) : Parser View :=
  fun c =>
    let indices := if v.expression.isSome then indexOrBounds phrase c else []
    let types := Types.typeArguments phrase c
    let cursors := (indices.map (·.cursor)) ++ (types.map (·.cursor))
    (cursors.eraseDups.map fun stop =>
      let indexed : List (Node × Int) :=
        (indices.filter fun r => r.cursor == stop).flatMap fun r =>
          v.expression.toList.map fun (n, w) =>
            (around start r.value.1 (n.withRole (some .operand) :: before ++ r.value.2) stop,
              w + r.weight)
      let here := types.filter fun r => r.cursor == stop
      let instantiated : List (Node × Int) :=
        here.flatMap fun r =>
          (singleTypes r.value).toList.flatMap fun ts =>
            (v.type.filter fun t => standsAlone t.1).toList.map fun (n, w) =>
              (around start .typeInstantiationExpression (n :: before ++ ts) stop,
                w + r.weight - 3)
      let applied : List (Node × Int) :=
        here.flatMap fun r =>
          (v.type.toList.filter fun t => t.1.kind ∈ [.typeIdentifier, .qualifiedType]).map fun t =>
            (around start .genericType
              (t.1.withRole (some .type) :: before ++ [r.value]) stop,
              appliedWeight t + r.weight + 1)
      let called : List (List Node × Int) :=
        if beginsWithValue c then []
        else
          here.flatMap fun r =>
            v.expression.toList.map fun (n, w) =>
              (n.withRole (some .function) :: before ++ [r.value], w + r.weight)
      ⟨⟨heaviestOf (instantiated ++ indexed), heaviestOf applied, called.head?⟩, 0, stop⟩)

/-- Arguments after an operand: a conversion or a call. -/
def call (phrase : Phrases) (start : Nat) (v : View) (before : List Node) : Parser View := fun c =>
  (arguments phrase c).map fun r =>
    let converted : List (Node × Int) :=
      if singleOperand r.value then
        (v.type.filter fun t => standsAlone t.1).toList.map fun (n, w) =>
          (around start .typeConversionExpression
            (n.withRole (some .type) :: before ++ r.value.children) r.cursor, w - 1)
      else []
    let operands : Node := r.value.withRole (some .arguments)
    let instantiated : List (Node × Int) :=
      v.function.toList.map fun (parts, w) =>
        (around start .callExpression (parts ++ before ++ [operands]) r.cursor, w)
    let plain : List (Node × Int) :=
      v.expression.toList.map fun (n, w) =>
        (around start .callExpression
          (n.withRole (some .function) :: before ++ [operands]) r.cursor, w)
    { r with value := ⟨heaviestOf (converted ++ plain ++ instantiated), none, none⟩ }

/-- The elements of a literal after a type. -/
def elements (phrase : Phrases) (start : Nat) (p : Place) (v : View) (before : List Node) :
    Parser View := fun c =>
  match v.type with
  | none => []
  | some t =>
    if takesElements t.1 && !(p.beforeBlock && t.1.kind == .typeIdentifier) then
      (phrase .literalValue c).map fun r =>
        { r with
          value :=
            .ofExpression
              (around start .compositeLiteral
                (t.1.withRole (some .type) :: before ++ [r.value.withRole (some .body)]) r.cursor)
              (appliedWeight t + r.weight)
          weight := 0 }
    else []

/-- The words `(type)` in front of which a type switch ends its value. -/
def isTypeSwitch (c : Cursor) : Bool :=
  !((mark .free "(" ++ keyword .free "type") c).isEmpty

/-- The suffix at the next token, if there is one there: the views it leads to. -/
def suffix (phrase : Phrases) (start : Nat) (p : Place) (v : View) (before : List Node)
    (c : Cursor) : Option (List (Reading View)) :=
  if v.isVoid then none
  else
    match c.rest with
    | '.' :: '.' :: _ => none
    | '.' :: rest =>
      let d : Cursor := c.past ['.'] rest
      let (comments, e) := d.gap .free
      match e.rest with
      | '(' :: _ =>
        if p.beforeTypeSwitch && isTypeSwitch d then none
        else some (assertion phrase start v (before ++ comments) e)
      | _ => some (member start v before d)
    | '[' :: _ => some (brackets phrase start v before c)
    | '(' :: _ => some (call phrase start v before c)
    | '\x7b' :: _ =>
      if v.type.isSome then some (elements phrase start p v before c) else none
    | _ => none

/-- An operand with all its suffixes. Where the operand may be over, because a line break or a block
follows, the reading that ends there is one of the readings. The bound has a character for each
suffix. -/
def suffixes (phrase : Phrases) (start : Nat) (p : Place) : (bound : Text) → View → Parser Node
  | [], v => v.ended
  | _ :: bound, v => fun c =>
    let ended : List (Reading Node) := v.ended c
    let atLineEnd : Bool := p.endsWithLine && (c.gap .sameLine).2.rest.head? == some '\n'
    let (comments, d) := c.gap .free
    let here : View := if atLineEnd then v.acrossLine else v
    match suffix phrase start p here comments d with
    | none => ended
    | some views =>
      let further : List (Reading Node) := views.flatMap fun r =>
        (suffixes phrase start p bound r.value r.cursor).map fun s =>
          { s with weight := r.weight + s.weight }
      if atLineEnd || (p.beforeBlock && d.rest.head? == some '\x7b') then
        Reading.heaviest (further ++ ended)
      else Reading.heaviest further

/-! ## Operands -/

/-- An operand in parentheses: an expression, a type, or both. -/
def parenthesized (phrase : Phrases) : Parser View := fun c =>
  let asExpression :=
    construct .parenthesizedExpression
      (mark .free "(" ++ part .free none (phrase (.expression .inner)) ++ mark .free ")") c
  let asType :=
    if beginsWithValue c then []
    else
      construct .parenthesizedType
        (mark .free "(" ++ part .free none (phrase (.type .free)) ++ mark .free ")") c
  let cursors := (asExpression.map (·.cursor)) ++ (asType.map (·.cursor))
  cursors.eraseDups.map fun stop =>
    let at_ (rs : List (Reading Node)) : Option (Node × Int) :=
      heaviestOf ((rs.filter fun r => r.cursor == stop).map fun r => (r.value, r.weight))
    ⟨⟨at_ asExpression, at_ asType, none⟩, 0, stop⟩

/-- A function with its body, or the type of a function. -/
def functionOperand (phrase : Phrases) : Parser View := fun c =>
  let signature : Parts :=
    keyword .free "func" ++ part .free (some .parameters) (Types.parameters phrase) ++
      Types.result phrase [] .free
  (signature c).flatMap fun r =>
    match (part .free (some .body) (phrase .block)) r.cursor with
    | [] => [⟨.ofType (around c.offset .functionType r.value r.cursor) r.weight, 0, r.cursor⟩]
    | bodies =>
      bodies.map fun b =>
        { b with
          value := .ofExpression (around c.offset .funcLiteral (r.value ++ b.value) b.cursor)
            (r.weight + b.weight)
          weight := 0 }

/-- The words that are literals. -/
def wordLiterals : List (String × Kind) :=
  [("nil", .nilLiteral), ("true", .trueLiteral), ("false", .falseLiteral), ("iota", .iotaLiteral)]

/-- An operand that begins with a word. -/
def wordOperand (phrase : Phrases) (p : Place) : Parser View := fun c =>
  match Token.word c.rest with
  | none => []
  | some (text, rest) =>
    let after := c.past text rest
    if text = "func".toList then functionOperand phrase c
    else if typeWords.any fun w => text = w.toList then
      (phrase (.type .free) c).map fun r =>
        { r with value := .ofType r.value r.weight, weight := 0 }
    else if text = "new".toList || text = "make".toList then
      let word := Node.leaf .identifier c.offset text
      let (comments, d) := after.gap p.spacing
      if d.rest.head? == some '(' then
        (typeFirstArguments phrase d).map fun r =>
          { r with
            value :=
              .ofExpression
                (around c.offset .callExpression
                  (word.withRole (some .function) :: comments ++
                    [r.value.withRole (some .arguments)]) r.cursor)
                r.weight
            weight := 0 }
      else [⟨.ofExpression word 0, 0, after⟩]
    else
      match wordLiterals.find? fun w => text = w.1.toList with
      | some (_, kind) => [⟨.ofExpression (Node.leaf kind c.offset text) 0, 0, after⟩]
      | none => [⟨.ofName (Node.leaf .identifier c.offset text), 0, after⟩]

/-- The first part of an operand, without suffixes. -/
def primary (phrase : Phrases) (p : Place) : Parser View := fun c =>
  let asType (ty : Parser Node) : List (Reading View) :=
    (ty c).map fun r => { r with value := .ofType r.value r.weight, weight := 0 }
  match c.rest with
  | '(' :: _ => parenthesized phrase c
  | '[' :: _ => asType (phrase (.type .free) <|> Types.implicitLengthArrayType phrase)
  | '~' :: _ => (asType (phrase (.type .free))).reverse
  | '<' :: _ => asType (phrase (.type .free))
  | _ =>
    match literal c with
    | [] => wordOperand phrase p c
    | readings => readings.map fun r =>
      { r with value := .ofExpression r.value r.weight, weight := 0 }

/-- An operand with its suffixes. -/
def suffixed (phrase : Phrases) (p : Place) : Parser Node := fun c =>
  (primary phrase p c).flatMap fun r =>
    suffixes phrase c.offset p r.cursor.rest r.value r.cursor

/-- An operator in front of an operand. -/
def prefixed (phrase : Phrases) (p : Place) (m : String) : Parser Node :=
  construct .unaryExpression
    (mark .free m ++ part .free (some .operand) (phrase (.operand p.asOperand)))

/-- After stars comes a name at the end of its line. The bound has a character for each star. -/
def starredNameEndsLine : (bound : Text) → Cursor → Bool
  | [], _ => false
  | _ :: bound, c =>
    let d := (c.gap .free).2
    match d.rest with
    | '*' :: rest => starredNameEndsLine bound (d.past ['*'] rest)
    | t =>
      (Token.word t).any fun (word, rest) =>
        !(typeWords.any fun w => word = w.toList) &&
          ((d.past word rest).gap .sameLine).2.rest.head? == some '\n'

/-- A conversion to a pointer type, or a pointer type with type arguments. As elsewhere, a name by
itself is not taken for a type across lines. When the target of the
pointer is only a name, a conversion is lighter than the call under the operator, and is considered
only where a type switch may cut the call short. -/
def pointerOperand (phrase : Phrases) (p : Place) : Parser Node := fun c =>
  if beginsWithValue c || (p.endsWithLine && starredNameEndsLine c.rest c) then []
  else
    (phrase (.type .free) c).flatMap fun r =>
      let next := (r.cursor.gap .free).2.rest.head?
      if next == some '[' ||
          (next == some '(' && (p.beforeTypeSwitch || !isNamePointer r.value)) then
        suffixes phrase c.offset p r.cursor.rest (.ofType r.value r.weight) r.cursor
      else []
where
  /-- The node is a pointer, over any number of pointers, to a type given by its name only. -/
  isNamePointer : Node → Bool
    | ⟨.pointerType, _, _, _, children⟩ => children.any fun n =>
      n.kind == .typeIdentifier || n.kind == .qualifiedType ||
        (n.kind == .pointerType && n.children.any fun m =>
          m.kind == .typeIdentifier || m.kind == .qualifiedType)
    | _ => false

/-- An operand, perhaps with operators in front. -/
def operand (phrase : Phrases) (p : Place) : Parser Node := fun c =>
  match c.rest with
  | '+' :: _ => prefixed phrase p "+" c
  | '-' :: _ => prefixed phrase p "-" c
  | '!' :: _ => prefixed phrase p "!" c
  | '^' :: _ => prefixed phrase p "^" c
  | '&' :: _ => prefixed phrase p "&" c
  | '*' :: _ => heaviest (either (pointerOperand phrase p) (prefixed phrase p "*")) c
  | '<' :: '-' :: _ =>
    if ((mark .free "<-" ++ keyword .free "chan") c).isEmpty then prefixed phrase p "<-" c
    else suffixed phrase p c
  | _ => suffixed phrase p c

/-- Goes on from a left operand with operators that bind at least as strongly as `least`. The bound
has a character for each operator. -/
def operators (phrase : Phrases) (start : Nat) (p : Place) :
    (bound : Text) → Nat → Node → Parser Node
  | [], _, left => done left
  | _ :: bound, least, left => fun c =>
    let (before, d) := c.gap p.spacing
    match binaryOperator p d.rest with
    | none => done left c
    | some (op, strength) =>
      if strength < least then done left c
      else
        let afterOp := d.past op.toList (d.rest.drop op.toList.length)
        let (between, e) := afterOp.gap .free
        let right : Parser Node := fun e =>
          (phrase (.operand p.asOperand) e).flatMap fun r =>
            (operators phrase e.offset p bound (strength + 1) r.value r.cursor).map fun s =>
              { s with weight := r.weight + s.weight }
        (right e).flatMap fun r =>
          let whole := around start .binaryExpression
            (left.withRole (some .left) :: before ++ between ++ [r.value.withRole (some .right)])
            r.cursor
          (operators phrase start p bound least whole r.cursor).map fun s =>
            { s with weight := r.weight + s.weight }

/-- An expression. -/
def expression (phrase : Phrases) (p : Place) : Parser Node :=
  heaviest fun c =>
    (phrase (.operand p) c).flatMap fun r =>
      (operators phrase c.offset p r.cursor.rest 1 r.value r.cursor).map fun s =>
        { s with weight := r.weight + s.weight }

/-- One or more expressions with commas between them. -/
def expressionList (phrase : Phrases) (p : Place) : Parser Node :=
  construct .expressionList
    (part .free none (phrase (.expression p)) ++
      many (mark p.spacing "," ++ part .free none (phrase (.expression p))))

end RouteStubs.Syntax.Expressions
