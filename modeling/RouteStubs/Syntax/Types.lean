import RouteStubs.Syntax.Phrase

/-!
# Types

The rules for types, parameter lists and type parameters. A name that stands for a type by itself
weighs one less than nothing, and type arguments add to the weight: this is what decides, in
`Syntax.Expressions`, whether brackets hold an index or type arguments.
-/

namespace RouteStubs.Syntax.Types

open RouteStubs.Syntax.Parser

/-! ## Parameters -/

/-- Names with commas between them, then their type. A word that begins a type can be a name only
after another name. -/
def namedParameter (phrase : Phrases) : Parser Node :=
  construct .parameterDeclaration
    (part .free (some .name) (name .identifier typeWords) ++
      many (mark .free "," ++ part .free (some .name) (name .identifier [])) ++
      part .free (some .type) (phrase (.type .free)))

/-- A parameter that takes any number of values. -/
def variadicParameter (phrase : Phrases) : Parser Node :=
  construct .variadicParameterDeclaration
    (optional (part .free (some .name) (name .identifier typeWords)) ++
      mark .free "..." ++ part .free (some .type) (phrase (.type .free)))

/-- A parameter without a name. -/
def bareParameter (phrase : Phrases) : Parser Node :=
  construct .parameterDeclaration (part .free (some .type) (phrase (.type .free)))

/-- A parameter, with or without a name. -/
def parameter (phrase : Phrases) : Parser Node :=
  either (namedParameter phrase) (variadicParameter phrase <|> bareParameter phrase)

/-- Parameters between parentheses, perhaps with a comma after the last. -/
def parameters (phrase : Phrases) : Parser Node :=
  heaviest
    (construct .parameterList
      (mark .free "(" ++ optional (separated (part .free none (parameter phrase))) ++
        optional (mark .free ",") ++ mark .free ")"))

/-- The result of a function, if it has one: parameters, or a type without parentheses. The keywords
given do not begin it. An opening parenthesis or bracket always does. -/
def result (phrase : Phrases) (keywords : List String) (s : Spacing) : Parts := fun c =>
  let isKeyword (t : Text) : Bool :=
    (Token.word t).any fun found => keywords.any fun w => found.1 = w.toList
  match (c.gap s).2.rest with
  | '(' :: _ => part s none (parameters phrase) c
  | '[' :: _ => part s none (phrase (.type s)) c
  | t => if isKeyword t then nothing c else optional (part s none (phrase (.type s))) c

/-- A type parameter or several, and what they range over. -/
def typeParameter (phrase : Phrases) (keywords : List String) : Parser Node :=
  construct .typeParameterDeclaration
    (part .free (some .name) (name .identifier keywords) ++
      many (mark .free "," ++ part .free (some .name) (name .identifier [])) ++
      part .free (some .type)
        (construct .typeConstraint
          (part .free none (phrase (.type .free)) ++
            many (mark .free "|" ++ part .free none (phrase (.type .free))))))

/-- Type parameters between brackets. The keywords given do not begin them. -/
def typeParameters (phrase : Phrases) (keywords : List String) : Parser Node :=
  construct .typeParameterList
    (mark .free "[" ++ part .free none (typeParameter phrase keywords) ++
      many (mark .free "," ++ part .free none (typeParameter phrase [])) ++
      optional (mark .free ",") ++ mark .free "]")

/-! ## Named types -/

/-- A union of types, or a single one. -/
def typeElement (phrase : Phrases) (s : Spacing) : Parser Node :=
  construct .typeElem
    (part .free none (phrase (.type s)) ++ many (mark s "|" ++ part .free none (phrase (.type s))))

/-- Type arguments between brackets. -/
def typeArguments (phrase : Phrases) : Parser Node :=
  weigh 2
    (construct .typeArguments
      (mark .free "[" ++ separated (part .free none (typeElement phrase .free)) ++
        optional (mark .free ",") ++ mark .free "]"))

/-- The name of a type in a package. -/
def qualifiedType (keywords : List String) (s : Spacing) : Parser Node :=
  construct .qualifiedType
    (part .free (some .package) (name .packageIdentifier keywords) ++ mark s "." ++
      part .free (some .name) (name .typeIdentifier []))

/-- The name of a type, in a package or not. -/
def typeName (keywords : List String) (s : Spacing) : Parser Node :=
  qualifiedType keywords s <|> name .typeIdentifier keywords

/-- A type applied to type arguments. -/
def applied (phrase : Phrases) (s : Spacing) (base : Parser Node) : Parser Node :=
  weigh 1
    (construct .genericType
      (part .free (some .type) base ++ part s none (typeArguments phrase)))

/-- A type that is given by a name without type arguments. -/
def plainType (s : Spacing) : Parser Node :=
  qualifiedType typeWords s <|> weigh (-1) (name .typeIdentifier typeWords)

/-- A type that is given by a name. Brackets after it can also belong to what follows. -/
def namedType (phrase : Phrases) (s : Spacing) : Parser Node :=
  either (applied phrase s (typeName typeWords s)) (plainType s)

/-- All types whose underlying type is the given one. Type arguments can be applied to this set. -/
def negatedType (phrase : Phrases) (s : Spacing) : Parser Node :=
  let negated (p : Parser Node) : Parser Node :=
    construct .negatedType (mark .free "~" ++ part .free none p)
  either (applied phrase s (negated (phrase (.type s)))) (negated (phrase (.type s)))

/-! ## Types with fields and methods -/

/-- The tag after a field. -/
def fieldTag : Parts := optional (part .sameLine none stringLiteral)

/-- Names of fields and their type. After a single name the type has to follow on the same line. -/
def namedFields (phrase : Phrases) : Parts :=
  let field (s : Spacing) : Parts := part s (some .name) (name .fieldIdentifier [])
  (field .free ++ part .sameLine (some .type) (phrase (.type .sameLine))) <|>
    (field .free ++ mark .sameLine "," ++ separated (field .free) ++
      part .free (some .type) (phrase (.type .sameLine)))

/-- A field that is given by its type only. -/
def embeddedField (phrase : Phrases) : Parts :=
  optional (mark .free "*") ++
    part .free (some .type)
      (applied phrase .free (negatedType phrase .free) <|>
        applied phrase .sameLine (typeName [] .sameLine) <|> typeName [] .sameLine)

/-- One declaration of fields. -/
def fieldDeclaration (phrase : Phrases) : Parser Node :=
  heaviest
    (construct .fieldDeclaration (either (namedFields phrase) (embeddedField phrase) ++ fieldTag))

/-- A type with fields. -/
def structType (phrase : Phrases) : Parser Node :=
  construct .structType
    (keyword .free "struct" ++
      part .free none
        (construct .fieldDeclarationList
          (mark .free "\x7b" ++ entries (part .free none (fieldDeclaration phrase)) ++
            mark .free "\x7d")))

/-- A method that a type has to have. -/
def methodElement (phrase : Phrases) : Parser Node :=
  construct .methodElem
    (part .free (some .name) (name .fieldIdentifier typeWords) ++
      part .sameLine (some .parameters) (parameters phrase) ++ result phrase [] .sameLine)

/-- A type given by what its members have to satisfy. -/
def interfaceType (phrase : Phrases) : Parser Node :=
  construct .interfaceType
    (keyword .free "interface" ++ mark .free "\x7b" ++
      entries (part .free none (methodElement phrase <|> typeElement phrase .sameLine)) ++
      mark .free "\x7d")

/-! ## Composed types -/

/-- An array with its length, or a slice. -/
def arrayType (phrase : Phrases) (s : Spacing) : Parser Node :=
  let element : Parts := part .free none (phrase (.type s))
  construct .sliceType (mark .free "[" ++ mark .free "]" ++ element) <|>
    construct .arrayType
      (mark .free "[" ++ part .free none (phrase (.expression .inner)) ++ mark .free "]" ++
        element)

/-- An array whose length is the number of elements given. -/
def implicitLengthArrayType (phrase : Phrases) : Parser Node :=
  construct .implicitLengthArrayType
    (mark .free "[" ++ mark .free "..." ++ mark .free "]" ++
      part .free none (phrase (.type .free)))

/-- A map from keys to values. -/
def mapType (phrase : Phrases) (s : Spacing) : Parser Node :=
  construct .mapType
    (keyword .free "map" ++ mark .free "[" ++ part .free none (phrase (.type .free)) ++
      mark .free "]" ++ part .free none (phrase (.type s)))

/-- A channel to send on or to receive from. -/
def channelType (phrase : Phrases) (s : Spacing) : Parser Node :=
  let value : Parts := part .free (some .value) (phrase (.type s))
  construct .channelType
    ((keyword .free "chan" ++ value) <|>
      (keyword .free "chan" ++ mark .free "<-" ++ value) <|>
      (mark .free "<-" ++ keyword .free "chan" ++ value))

/-- A function by its parameters and its result. -/
def functionType (phrase : Phrases) (s : Spacing) : Parser Node :=
  construct .functionType
    (keyword .free "func" ++ part .free (some .parameters) (parameters phrase) ++
      result phrase (if s == .sameLine then clauseWords else []) s)

/-- A type. -/
def type (phrase : Phrases) (s : Spacing) : Parser Node := fun c =>
  let inside : Parts := part .free none (phrase (.type s))
  match c.rest with
  | '*' :: _ => construct .pointerType (mark .free "*" ++ inside) c
  | '~' :: _ => negatedType phrase s c
  | '(' :: _ =>
    construct .parenthesizedType
      (mark .free "(" ++ part .free none (phrase (.type .free)) ++ mark .free ")") c
  | '[' :: _ => arrayType phrase s c
  | '<' :: _ => channelType phrase s c
  | _ =>
    (namedType phrase s <|> structType phrase <|> interfaceType phrase <|> mapType phrase s <|>
      channelType phrase s <|> functionType phrase s) c

end RouteStubs.Syntax.Types
