import RouteStubs.Syntax.Expressions

/-!
# Declarations

The rules for declarations of constants, variables and types, which are statements, and for package
clauses, imports, functions and methods, which stand only at the outermost level of a file.
-/

namespace RouteStubs.Syntax.Declarations

open RouteStubs.Syntax.Parser

/-! ## Constants, variables and types -/

/-- A declaration of one entry, or of entries between parentheses that each end with a terminator.
-/
def declaration (kind : Kind) (word : String) (entry group : Parts) : Parser Node :=
  construct kind (keyword .free word ++ (group <|> entry))

/-- Entries between parentheses. -/
def grouped (entry : Parts) : Parts :=
  mark .free "(" ++ many (entry ++ terminator) ++ mark .free ")"

/-- Constants with their values; a later entry of a group may repeat the values of the one before.
-/
def constSpec (phrase : Phrases) : Parser Node :=
  let constant : Parts := part .free (some .name) (name .identifier [])
  let values : Parts :=
    mark .free "=" ++ part .free (some .value) (Expressions.expressionList phrase .atEnd)
  construct .constSpec
    (separatedInLine constant ++
      optional
        (spaced .sameLine
          (values <|>
            (part .free (some .type) (guarding isType (phrase (.type .free))) ++ values))))
where
  /-- The words that begin clauses end the entry. -/
  isType (t : Text) : Bool :=
    !(Token.word t).any fun found => clauseWords.any fun w => found.1 = w.toList
  /-- After a name a line break may end the entry. -/
  separatedInLine (p : Parts) : Parts := p ++ many (mark .sameLine "," ++ p)

/-- A declaration of constants. -/
def constDeclaration (phrase : Phrases) : Parser Node :=
  let entry : Parts := part .free none (constSpec phrase)
  declaration .constDeclaration "const" entry (grouped entry)

/-- Variables with a type, values, or both. -/
def varSpec (phrase : Phrases) : Parser Node :=
  let values (s : Spacing) : Parts :=
    mark s "=" ++ part .free (some .value) (Expressions.expressionList phrase .atEnd)
  construct .varSpec
    (separated (part .free (some .name) (name .identifier [])) ++
      (values .free <|>
        (part .free (some .type) (phrase (.type .sameLine)) ++ optional (values .sameLine))))

/-- A declaration of variables. -/
def varDeclaration (phrase : Phrases) : Parser Node :=
  let entry : Parts := part .free none (varSpec phrase)
  declaration .varDeclaration "var" entry
    (part .free none (construct .varSpecList (grouped entry)))

/-- A new name for a type. -/
def typeAlias (phrase : Phrases) : Parser Node :=
  construct .typeAlias
    (part .free (some .name) (name .typeIdentifier []) ++ mark .free "=" ++
      part .free (some .type) (phrase (.type .sameLine)))

/-- A new type. Brackets after its name hold type parameters, or the length of an array. -/
def typeSpec (phrase : Phrases) : Parser Node :=
  let definition : Parts := part .free (some .type) (phrase (.type .sameLine))
  heaviest
    (construct .typeSpec
      (part .free (some .name) (name .typeIdentifier []) ++
        either definition
          (part .free none (Types.typeParameters phrase expressionWords) ++ definition)))

/-- A declaration of types. -/
def typeDeclaration (phrase : Phrases) : Parser Node :=
  let entry : Parts := part .free none (typeAlias phrase <|> typeSpec phrase)
  declaration .typeDeclaration "type" entry (grouped entry)

/-! ## The outermost level of a file -/

/-- The package that a file belongs to. -/
def packageClause : Parser Node :=
  construct .packageClause
    (keyword .free "package" ++ part .free none (name .packageIdentifier []))

/-- A word as the name of an imported package; a lone underscore has a kind of its own. -/
def importWord : Parser Node := fun c =>
  (name .packageIdentifier [] c).map fun r =>
    if r.value.text = ['_'] then { r with value := r.value.withKind .blankIdentifier } else r

/-- The name under which a package is imported. -/
def importName : Parser Node := construct .dot (mark .free ".") <|> importWord

/-- One import. -/
def importSpec : Parser Node :=
  construct .importSpec
    (optional (part .free (some .name) importName) ++ part .free none stringLiteral)

/-- An import, or several between parentheses. -/
def importDeclaration : Parser Node :=
  construct .importDeclaration
    (keyword .free "import" ++
      part .free none
        (importSpec <|>
          construct .importSpecList
            (mark .free "(" ++ entries (part .free none importSpec) ++ mark .free ")")))

/-- What follows the name of a function or method: parameters, result and body, of which the last
two have to begin on the line where the parts before them end. -/
def signatureAndBody (phrase : Phrases) : Parts :=
  part .free (some .parameters) (Types.parameters phrase) ++ Types.result phrase [] .sameLine ++
    optional (part .sameLine (some .body) (phrase .block))

/-- A function. -/
def functionDeclaration (phrase : Phrases) : Parser Node :=
  construct .functionDeclaration
    (keyword .free "func" ++ part .free (some .name) (name .identifier []) ++
      optional (part .free none (Types.typeParameters phrase [])) ++ signatureAndBody phrase)

/-- The receiver and the name of a method. -/
def methodName (phrase : Phrases) : Parts :=
  keyword .free "func" ++ part .free none (Types.parameters phrase) ++
    part .free (some .name) (name .fieldIdentifier typeWords)

/-- A method, which names its receiver first. -/
def methodDeclaration (phrase : Phrases) : Parser Node :=
  construct .methodDeclaration (methodName phrase ++ signatureAndBody phrase)

/-- A method begins here: its name and an opening parenthesis are there. -/
def opensMethod (phrase : Phrases) (c : Cursor) : Bool :=
  !((methodName phrase ++ mark .free "(") c).isEmpty

/-- A declaration that stands only at the outermost level. -/
def outerDeclaration (phrase : Phrases) : Parser Node :=
  packageClause <|> importDeclaration <|> functionDeclaration phrase <|> methodDeclaration phrase

end RouteStubs.Syntax.Declarations
