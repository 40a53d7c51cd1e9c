import RouteStubs.Handler.Fixture
import RouteStubs.Proofs.Handler.Gist
import RouteStubs.Proofs.Syntax.Outermost

/-!
# Classifying written handlers

For any handlers there is a source file whose functions read exactly the route variables of these
handlers, one on each line. The file is read as the tree that one would expect, and classifying it
gives back the handlers. The names have to be words of the language, and the keys may be any texts.
-/

namespace RouteStubs.Fixture

open Syntax Syntax.Parser Syntax.Token Syntax.Node Syntax.Types Syntax.Expressions
  Syntax.Statements Syntax.Declarations RouteVariables

/-! ## Sources -/

/-- The line that reads the route variable `key`. -/
def readLine (key : Text) : Text :=
  lit "\t_ = mux.Vars(r)[" ++ StringLiteral.quote key ++ lit "]"

/-- The lines that read the route variables `keys`. -/
def readLines (keys : List Text) : Text :=
  ['\n'].intercalate (keys.map readLine)

/-- A source file of the given `package` with functions that read the route variables of `handlers`.
-/
def source (package : Text) (handlers : List Handler) : Text :=
  file package (handlers.map fun h => handler h.name (readLines h.routeVariables))

/-! ## Trees -/

/-- The tree of the call that returns the route variables. -/
def mapTree : Node :=
  callTree (memberTree (.leaf .identifier 0 (lit "mux")) (lit "Vars"))
    (.leaf .identifier 0 (lit "r"))

/-- The tree of the literal of `key`. -/
def keyTree (key : Text) : Node :=
  .leaf .interpretedStringLiteral 0 (StringLiteral.quote key)

/-- The tree of the expression that reads the route variable `key`. -/
def accessTree (key : Text) : Node :=
  elementTree mapTree (keyTree key)

/-- The tree of the line that reads the route variable `key`. -/
def readTree (key : Text) : Node :=
  assignmentTree (.leaf .identifier 0 (lit "_")) (accessTree key)

/-- The tree of a body that reads the route variables `keys`. -/
def bodyTree (keys : List Text) : Node :=
  .branch .block ⟨0, 0⟩ (keys.map fun k => (readTree k).withRole none)

/-- The tree of the parameters of a handler. -/
def parametersTree : Node :=
  .branch .parameterList ⟨0, 0⟩
    [(parameterTree (lit "w") (qualifiedTree (lit "http") (lit "ResponseWriter"))).withRole none,
      (parameterTree (lit "r") (pointerTree (qualifiedTree (lit "http") (lit "Request")))).withRole
        none]

/-- The tree of the handler `h`. -/
def handlerTree (h : Handler) : Node :=
  functionTree h.name parametersTree (bodyTree h.routeVariables)

/-! ## Reading a route variable -/

/-- A name `w` is read as an expression by itself, if what follows it adds no suffix. -/
lemma reads_name_expression (d : Nat) {p : Syntax.Place} {w t u v : Text} (hw : IsWord w)
    (ht : Stops t) (htype : (typeWords.any fun k => w = k.toList) = false)
    (hvalue : (valueWords.any fun k => w = k.toList) = false) (hu : Clear .free t u)
    (hsuffix : ∀ c ∈ u.head?, c ∉ ['.', '[', '(', '\x7b']) (hv : Clear p.spacing t v)
    (hop : binaryOperator p v = none) :
    Reads (phraseWithin (d + 2) (.expression p)) (w ++ t) t (Alike (.leaf .identifier 0 w)) := by
  have hoperand : Reads (phraseWithin (d + 1) (.operand p)) (w ++ t) t
      (Alike (.leaf .identifier 0 w)) :=
    reads_operand_name hw ht htype hvalue
      (ripens_of_clear (fun _ hview => hview.expression) hu hsuffix)
  exact reads_expression hoperand hv hop

/-- The literal of a text `k` between brackets is read as `keyTree k`. -/
lemma reads_quote_expression (d : Nat) (k u : Text) :
    Reads (phraseWithin (d + 2) (.expression .inner)) (StringLiteral.quote k ++ ']' :: u) (']' :: u)
      (Alike (keyTree k)) := by
  have hclear : Clear .free (']' :: u) (']' :: u) := (meets_cons (by decide) u).clear
  have hoperand : Reads (phraseWithin (d + 1) (.operand .inner))
      (StringLiteral.quote k ++ ']' :: u) (']' :: u) (Alike (keyTree k)) :=
    reads_operand_quote (ripens_of_clear (fun _ hview => hview.expression) hclear (by simp))
  exact reads_expression hoperand hclear rfl

/-- The value that is read from the map of route variables is read as `accessTree k`. -/
lemma reads_access (d : Nat) (k u : Text) :
    Reads (phraseWithin (d + 4) (.expression .atEnd))
      (lit "mux" ++ '.' :: (lit "Vars" ++ '(' :: (lit "r" ++ ')' :: '[' ::
        (StringLiteral.quote k ++ ']' :: '\n' :: u)))) ('\n' :: u) (Alike (accessTree k)) := by
  have hr : IsWord (lit "r") := by decide
  have hargument (v : Text) := reads_name_expression d (p := .inner) (t := ')' :: v) hr
    (stops_cons (by decide) v) (by decide) (by decide) (meets_cons (by decide) v).clear (by simp)
    (meets_cons (by decide) v).clear rfl
  have hindex := reads_quote_expression d k ('\n' :: u)
  have htype : Fails (phraseWithin (d + 2) (.type .free))
      (StringLiteral.quote k ++ ']' :: '\n' :: u) := by
    rw [StringLiteral.quote_append]
    exact fails_type _ _ (by decide) (by decide) (by decide) _
  -- from the last suffix to the first, each with what is still to come
  have helement (m : Node) := (extends_element (m := m) (p := .atEnd) hindex htype
    (meets_quote k _)).ripens (by decide) (by decide)
      (by simp only [List.length_append, List.length_cons]; omega) (ripens_of_newline rfl u)
  have hcall (m : Node) := (extends_call (m := m) (p := .atEnd) (hargument _)
    (meets_word hr _)).ripens (by decide) (by decide)
      (by simp only [List.length_append, List.length_cons]; omega) (helement _)
  have hmember (m : Node) : Ripens (phraseWithin (d + 2)) .atEnd (View.IsName m) _ ('\n' :: u) _ :=
    (extends_member (show IsWord (lit "Vars") by decide) (stops_cons (c := '(') (by decide)
      _)).ripens (by decide) (by decide)
      (by simp only [List.length_append, List.length_cons]; omega) (hcall _)
  have hoperand : Reads (phraseWithin (d + 3) (.operand .atEnd)) _ ('\n' :: u)
      (Alike (accessTree k)) :=
    reads_operand_name (show IsWord (lit "mux") by decide) (stops_cons (by decide) _) (by decide)
      (by decide) (hmember _)
  exact reads_expression hoperand (clear_newline u) rfl

/-- The statement on a `readLine`, without the tab in front of it. -/
def readStatement (key : Text) : Text :=
  lit "_" ++ ' ' :: '=' :: ' ' :: (lit "mux" ++ '.' :: (lit "Vars" ++ '(' :: (lit "r" ++
    ')' :: '[' :: (StringLiteral.quote key ++ [']']))))

/-- A `readLine` is a tab and a `readStatement`. -/
lemma readLine_eq (key : Text) : readLine key = '\t' :: readStatement key := by
  have hfront : lit "\t_ = mux.Vars(r)[" = '\t' :: (lit "_" ++ ' ' :: '=' :: ' ' ::
      (lit "mux" ++ '.' :: (lit "Vars" ++ '(' :: (lit "r" ++ [')', '['])))) := by
    decide
  have hback : lit "]" = [']'] := by
    decide
  unfold readLine
  rw [hfront, hback]
  simp only [readStatement, List.append_assoc, List.cons_append, List.nil_append]

/-- A `readStatement` begins a token. -/
lemma meets_readStatement {s : Spacing} (key u : Text) :
    Meets s (readStatement key ++ u) (readStatement key ++ u) := by
  rw [readStatement, List.append_assoc]
  exact meets_word (by decide) _

/-- A `readStatement` at the end of its line is read as `readTree k`. -/
lemma reads_readStatement (d : Nat) (position : Position) (k u : Text) :
    Reads (phraseWithin (d + 5) (.statement position)) (readStatement k ++ '\n' :: u) ('\n' :: u)
      (Alike (readTree k)) := by
  have hunderscore : IsWord (lit "_") := by decide
  have hmeets {s : Spacing} (hs : s.isBlank ' ' = true) (v : Text) :
      Meets s (' ' :: '=' :: ' ' :: v) ('=' :: ' ' :: v) := (meets_cons (by decide) _).blank hs
  have htarget (v : Text) := reads_name_expression (d + 2) (p := Syntax.Place.atEnd.opening)
    (t := ' ' :: '=' :: ' ' :: v) hunderscore (stops_cons (by decide) _) (by decide) (by decide)
    (hmeets (by decide) v).clear (by simp) (hmeets (by decide) v).clear rfl
  have hsimple := reads_simple (htarget _) (reads_access d k u) (meets_word (by decide) _)
  have hcolon (v : Text) : Fails (mark .sameLine ":") (' ' :: '=' :: ' ' :: v) :=
    fails_mark (by decide) (hmeets (by decide) v)
  have hlabel (v : Text) : Fails (label position) (lit "_" ++ ' ' :: '=' :: ' ' :: v) :=
    fails_label hunderscore (stops_cons (by decide) _) position (by cases position <;> decide)
      (hcolon v)
  simp only [readStatement, List.append_assoc, List.cons_append, List.nil_append]
  exact reads_statement hsimple hunderscore (stops_cons (by decide) _) (by decide) (by decide)
    (hlabel _)

/-! ## Bodies -/

/-- No statement begins at the closing brace of a body. -/
lemma fails_statement_brace (d : Nat) (position : Position) (u : Text) :
    Fails (phraseWithin (d + 3) (.statement position)) ('\x7d' :: u) := by
  have hoperand : Fails (phraseWithin (d + 1) (.operand Syntax.Place.atEnd.opening))
      ('\x7d' :: u) := fails_operand_brace u
  exact fails_statement (word_cons_eq_none (by decide) u) (by simp) (fails_expression hoperand)

/-- The first `readLine` by itself, and the others with the line breaks in front of them. -/
lemma readLines_cons (k : Text) (ks : List Text) :
    readLines (k :: ks) = readLine k ++ ks.flatMap fun l => '\n' :: readLine l := by
  induction ks generalizing k with
  | nil => simp [readLines]
  | cons l ks ih =>
    have hstep : readLines (k :: l :: ks) = readLine k ++ '\n' :: readLines (l :: ks) := by
      simp [readLines, List.intercalate_cons_cons]
    rw [hstep, ih l, List.flatMap_cons, List.cons_append]

/-- Whatever follows a line begins with a line break. -/
lemma exists_flatMap_readLine (ks : List Text) (u : Text) :
    ∃ v, (ks.flatMap fun k => '\n' :: readLine k) ++ '\n' :: '\x7d' :: u = '\n' :: v := by
  cases ks with
  | nil => exact ⟨_, rfl⟩
  | cons k ks => exact ⟨_, rfl⟩

/-- The lines after the first are read as `readTree`s, one after the other. The induction is on
`ks`. -/
lemma repeats_readLines (d : Nat) (ks : List Text) (u : Text) :
    Repeats (further (phraseWithin (d + 5)))
      ((ks.flatMap fun k => '\n' :: readLine k) ++ '\n' :: '\x7d' :: u) ('\n' :: '\x7d' :: u)
      (AlikeParts (ks.map fun k => (readTree k).withRole none)) := by
  induction ks with
  | nil =>
    have hnone : Fails (phraseWithin (d + 5) (.statement .later)) ('\x7d' :: u) :=
      fails_statement_brace (d + 2) .later u
    exact ((reads_terminator _).append_fails
      (hnone.part (meets_cons (by decide) u) none)).repeats
  | cons k ks ih =>
    obtain ⟨v, hv⟩ := exists_flatMap_readLine ks u
    rw [List.flatMap_cons, List.append_assoc, hv, readLine_eq]
    rw [hv] at ih
    have hpart := (reads_readStatement d .later k v).part (s := .free)
      ((meets_readStatement k _).blank (b := '\t') (by decide)) none
    exact ((reads_terminator _).append hpart).repeats
      (by simp only [List.length_cons, List.length_append]; omega) ih

/-- The body of a handler is read as `bodyTree keys`. -/
lemma reads_body (d : Nat) (keys : List Text) (u : Text) :
    Reads (phraseWithin (d + 6) .block)
      ('\x7b' :: '\n' :: (readLines keys ++ '\n' :: '\x7d' :: u)) u (Alike (bodyTree keys)) := by
  cases keys with
  | nil =>
    have hmeets : Meets .free ('\n' :: '\n' :: '\x7d' :: u) ('\x7d' :: u) :=
      ((meets_cons (by decide) u).blank (by decide)).blank (by decide)
    exact reads_block_nil hmeets (fails_statement_brace (d + 2) .first u)
  | cons k ks =>
    have hothers := repeats_readLines d ks u
    obtain ⟨v, hv⟩ := exists_flatMap_readLine ks u
    rw [readLines_cons, List.append_assoc, hv, readLine_eq]
    rw [hv] at hothers
    have hmeets : Meets .free ('\n' :: '\t' :: (readStatement k ++ '\n' :: v))
        (readStatement k ++ '\n' :: v) :=
      ((meets_readStatement k _).blank (by decide)).blank (by decide)
    exact reads_block_cons hmeets (reads_readStatement d .first k v)
      (by simp only [List.length_cons, List.length_append]; omega) hothers

/-! ## Handlers -/

/-- A type of the package `http`, in front of a mark. -/
lemma reads_type_http (d : Nat) {name : Text} (hn : IsWord name) {c : Char}
    (hc : (!isBlank c && c != '/') = true) (hstops : Text.isIdentifierContinue c = false)
    (hbracket : ('[' != c) = true) (v : Text) :
    Reads (phraseWithin (d + 1) (.type .free)) (lit "http" ++ '.' :: (name ++ c :: v)) (c :: v)
      (Alike (qualifiedTree (lit "http") name)) :=
  reads_type_qualified _ (by decide) hn (stops_cons hstops v) (by decide) (meets_cons hc v)
    (fails_mark hbracket (meets_cons hc v))

/-- The parameter for the response, which could be a parameter of the type `w`. -/
lemma forks_writer (d : Nat) (u : Text) :
    Forks (parameter (phraseWithin (d + 1)))
      (lit "w" ++ ' ' :: (lit "http" ++ '.' :: (lit "ResponseWriter" ++ ',' :: u))) (',' :: u)
      (' ' :: (lit "http" ++ '.' :: (lit "ResponseWriter" ++ ',' :: u)))
      (Alike (parameterTree (lit "w") (qualifiedTree (lit "http") (lit "ResponseWriter")))) := by
  have hw : IsWord (lit "w") := by decide
  have hhttp : IsWord (lit "http") := by decide
  have hmeets {s : Spacing} (v : Text) : Meets s (lit "http" ++ v) (lit "http" ++ v) :=
    meets_word hhttp v
  have hblank (v : Text) : Meets .free (' ' :: (lit "http" ++ v)) (lit "http" ++ v) :=
    (hmeets v).blank (by decide)
  have hmarks (v : Text) : Unmarked (' ' :: (lit "http" ++ v)) := unmarked_of_word hhttp (hblank v)
  have hbare (v : Text) : Halts (phraseWithin (d + 1) (.type .free))
      (lit "w" ++ ' ' :: (lit "http" ++ v)) (' ' :: (lit "http" ++ v)) :=
    halts_type_name _ hw (stops_cons (by decide) _) (by decide) (hblank v) (hmarks v "." (by simp))
      (unmarked_of_word hhttp (hmeets v) "[" (by simp))
  exact forks_parameter hw (by decide)
    (reads_type_http d (by decide) (by decide) (by decide) (by decide) u) (hbare _) (hmeets _)
    (hmarks _) (by simp only [List.length_append, List.length_cons]; omega)

/-- The parameter for the request, which could be a parameter of the type `r`. -/
lemma forks_request (d : Nat) (u : Text) :
    Forks (parameter (phraseWithin (d + 2)))
      (lit "r" ++ ' ' :: '*' :: (lit "http" ++ '.' :: (lit "Request" ++ ')' :: u))) (')' :: u)
      (' ' :: '*' :: (lit "http" ++ '.' :: (lit "Request" ++ ')' :: u)))
      (Alike (parameterTree (lit "r")
        (pointerTree (qualifiedTree (lit "http") (lit "Request"))))) := by
  have hr : IsWord (lit "r") := by decide
  have hmeets {s : Spacing} (v : Text) : Meets s ('*' :: v) ('*' :: v) := meets_cons (by decide) v
  have hblank (v : Text) : Meets .free (' ' :: '*' :: v) ('*' :: v) := (hmeets v).blank (by decide)
  have hmarks (v : Text) : Unmarked (' ' :: '*' :: v) := unmarked_of_star (hblank v)
  have hbare (v : Text) : Halts (phraseWithin (d + 2) (.type .free))
      (lit "r" ++ ' ' :: '*' :: v) (' ' :: '*' :: v) :=
    halts_type_name _ hr (stops_cons (by decide) _) (by decide) (hblank v) (hmarks v "." (by simp))
      (unmarked_of_star (hmeets v) "[" (by simp))
  have htype : Reads (phraseWithin (d + 2) (.type .free))
      ('*' :: (lit "http" ++ '.' :: (lit "Request" ++ ')' :: u))) (')' :: u)
      (Alike (pointerTree (qualifiedTree (lit "http") (lit "Request")))) :=
    reads_type_pointer (reads_type_http d (by decide) (by decide) (by decide) (by decide) u)
      (meets_word (by decide) _)
  exact forks_parameter hr (by decide) htype (hbare _) (hmeets _) (hmarks _)
    (by simp only [List.length_append, List.length_cons]; omega)

/-- The parameters of a handler are read as `parametersTree`. -/
lemma reads_parametersTree (d : Nat) (u : Text) :
    Reads (parameters (phraseWithin (d + 2)))
      ('(' :: (lit "w" ++ ' ' :: (lit "http" ++ '.' :: (lit "ResponseWriter" ++ ',' :: ' ' ::
        (lit "r" ++ ' ' :: '*' :: (lit "http" ++ '.' :: (lit "Request" ++ ')' :: u))))))) u
      (Alike parametersTree) := by
  have hword (v : Text) : Unmarked (' ' :: (lit "http" ++ v)) :=
    unmarked_of_word (by decide) ((meets_word (by decide) v).blank (by decide))
  have hstar (v : Text) : Unmarked (' ' :: '*' :: v) :=
    unmarked_of_star ((meets_cons (by decide) v).blank (by decide))
  exact reads_parameters (forks_writer (d + 1) _) (forks_request d u) (meets_word (by decide) _)
    (meets_word (by decide) _) (by simp) (hword _) (hstar _)

/-- What stands between the name of a handler and its body. -/
def betweenNameAndBody (u : Text) : Text :=
  lit "w" ++ ' ' :: (lit "http" ++ '.' :: (lit "ResponseWriter" ++ ',' :: ' ' ::
    (lit "r" ++ ' ' :: '*' :: (lit "http" ++ '.' :: (lit "Request" ++ ')' :: ' ' :: '\x7b' ::
      '\n' :: u)))))

/-- A `handler` in front of other text `u`, token by token up to its body. -/
lemma handler_append (name body u : Text) :
    handler name body ++ u = lit "func" ++ ' ' :: (name ++ '(' ::
      betweenNameAndBody (body ++ '\n' :: '\x7d' :: '\n' :: u)) := by
  have hfunc : lit "func " = lit "func" ++ [' '] := by
    decide
  have hparameters : lit "(w http.ResponseWriter, r *http.Request) \x7b\n" =
      '(' :: betweenNameAndBody [] := by
    decide
  have hend : lit "\n\x7d\n" = ['\n', '\x7d', '\n'] := by
    decide
  unfold handler
  rw [hfunc, hparameters, hend]
  simp only [betweenNameAndBody, List.append_assoc, List.cons_append, List.nil_append]

/-- No statement begins at `func` where a handler does. -/
lemma fails_statement_handler (d : Nat) {name : Text} (hn : IsWord name) (t : Text) :
    Fails (phraseWithin (d + 3) (.statement .outermost)) (lit "func" ++ ' ' :: (name ++ t)) := by
  have hoperand : Fails (phraseWithin (d + 1) (.operand Syntax.Place.atEnd.opening))
      (lit "func" ++ ' ' :: (name ++ t)) := fails_operand_func hn t
  exact fails_statement_func (fails_expression hoperand)

/-- A handler `h` is read as an entry of a file, after an empty line. -/
lemma reads_handler (d : Nat) {h : Handler} (hn : IsWord h.name) (u : Text) :
    Reads (outerEntry (phraseWithin (d + 6)))
      ('\n' :: (handler h.name (readLines h.routeVariables) ++ u)) ('\n' :: u)
      (AlikeParts [(handlerTree h).withRole none]) := by
  rw [handler_append]
  have hresult (v : Text) : Fails (phraseWithin (d + 6) (.type .sameLine)) ('\x7b' :: v) :=
    fails_type _ _ (by decide) (by decide) (by decide) v
  have hfunction := reads_functionDeclaration hn (reads_parametersTree (d + 4) _) (hresult _)
    (reads_body d h.routeVariables ('\n' :: u))
  exact reads_outerEntry_function hfunction (fails_statement_handler (d + 3) hn _)

/-! ## Files -/

/-- The `handlers` of a file are read up to the end of the file. The induction is on them. -/
lemma repeats_handlers (d : Nat) {handlers : List Handler}
    (hnames : ∀ h ∈ handlers, IsWord h.name) :
    Repeats (outerEntry (phraseWithin (d + 6)) ++ terminator)
      (handlers.flatMap fun h => '\n' :: handler h.name (readLines h.routeVariables)) []
      (AlikeParts (handlers.map fun h => (handlerTree h).withRole none)) := by
  induction handlers with
  | nil =>
    have hoperand : Fails (phraseWithin (d + 4) (.operand Syntax.Place.atEnd.opening)) [] :=
      fails_operand_nil
    have hstatement : Fails (phraseWithin (d + 6) (.statement .outermost)) [] :=
      fails_statement rfl (by simp) (fails_expression hoperand)
    exact ((fails_outerEntry_nil hstatement).append _).repeats
  | cons h hs ih =>
    have ih' := ih fun g hg => hnames g (List.mem_cons_of_mem _ hg)
    have hentry := reads_handler d (hnames h List.mem_cons_self)
      (hs.flatMap fun g => '\n' :: handler g.name (readLines g.routeVariables))
    rw [List.flatMap_cons, List.cons_append]
    exact (hentry.append (reads_terminator _)).repeats
      (by simp only [List.length_cons, List.length_append]; omega) ih'

/-- A `source` file, token by token up to its handlers. -/
lemma source_eq (package : Text) (handlers : List Handler) :
    source package handlers = lit "package" ++ ' ' :: (package ++ '\n' :: '\n' :: (lit "import" ++
      ' ' :: '(' :: '\n' :: '\t' :: (StringLiteral.quote (lit "net/http") ++ '\n' :: '\n' :: '\t' ::
        (StringLiteral.quote (lit "github.com/gorilla/mux") ++ '\n' :: ')' :: '\n' ::
          handlers.flatMap fun h => '\n' :: handler h.name (readLines h.routeVariables))))) := by
  have hpackage : lit "package " = lit "package" ++ [' '] := by
    decide
  have himports : lit "\n\nimport (\n\t\"net/http\"\n\n\t\"github.com/gorilla/mux\"\n)\n" =
      '\n' :: '\n' :: (lit "import" ++ ' ' :: '(' :: '\n' :: '\t' ::
        (StringLiteral.quote (lit "net/http") ++ '\n' :: '\n' :: '\t' ::
          (StringLiteral.quote (lit "github.com/gorilla/mux") ++ ['\n', ')', '\n']))) := by
    decide
  unfold source file
  rw [hpackage, himports, List.flatMap_map]
  simp only [List.append_assoc, List.cons_append, List.nil_append]

/-- The parts of a `source` file: the package clause, the imports and the handlers. -/
lemma reads_source (d : Nat) {package : Text} (hp : IsWord package) {handlers : List Handler}
    (hnames : ∀ h ∈ handlers, IsWord h.name) :
    Reads (fileParts (phraseWithin (d + 6))) (source package handlers) []
      (AlikeParts ((packageTree package).withRole none ::
        (importsTree [lit "net/http", lit "github.com/gorilla/mux"]).withRole none ::
        handlers.map fun h => (handlerTree h).withRole none)) := by
  rw [source_eq]
  have hpackage (v : Text) : Reads (outerEntry (phraseWithin (d + 6)) ++ terminator)
      (lit "package" ++ ' ' :: (package ++ '\n' :: v)) v _ :=
    (reads_outerEntry_package hp (stops_cons (by decide) v)).append (reads_terminator v)
  have himports (v : Text) : Reads (outerEntry (phraseWithin (d + 6)) ++ terminator) _ v _ :=
    (reads_outerEntry_imports (lit "net/http") (lit "github.com/gorilla/mux") ('\n' :: v)).append
      (reads_terminator v)
  refine reads_fileParts ?_
  exact (hpackage _).repeats (by simp only [List.length_append, List.length_cons]; omega)
    ((himports _).repeats (by simp only [List.length_append, List.length_cons]; omega)
      (repeats_handlers d hnames))

/-! ## Classification -/

/-- The tree `mapTree` is a call of the accessor. -/
lemma callsAccessor_mapTree (role : Option Role) :
    callsAccessor .standard (mapTree.withRole role) = true := by
  simp [callsAccessor, mapTree, callTree, memberTree, selectsAccessor, bare, withRole, branch, leaf,
    child?, Accessor.standard]

/-- The keys in `keysRead` of a node that opens no scope: its own, if it reads one, and those of its
parts. -/
lemma keysRead_withRole (a : Accessor) (holders : List Text) (role : Option Role) {n : Node}
    (h : opensScope n.kind = false) :
    keysRead a holders (n.withRole role) =
      (readKey? a holders n).toList ++ keysReadIn a holders n.children := by
  cases n
  simp only [withRole, keysRead, h, Bool.false_eq_true, if_false]
  rfl

/-- Only an index expression reads a key by `readKey?`. -/
lemma readKey?_of_kind_ne (a : Accessor) (holders : List Text) {n : Node}
    (h : n.kind ≠ .indexExpression) : readKey? a holders n = none :=
  if_neg h

/-- The expression `accessTree k` reads the key `k`. -/
lemma readKey?_accessTree (k : Text) : readKey? .standard [] (accessTree k) = some k := by
  have hcall : callsAccessor .standard (bare (mapTree.withRole (some .operand))) = true := by
    rw [bare_of_kind_ne (by decide)]
    exact callsAccessor_mapTree _
  have hkey : StringLiteral.value? (bare ((keyTree k).withRole (some .index))) = some k := by
    rw [bare_of_kind_ne (by simp [keyTree, leaf, withRole])]
    exact StringLiteral.value?_quote rfl rfl
  have hoperand : (accessTree k).child? .operand = some (mapTree.withRole (some .operand)) := rfl
  have hindex : (accessTree k).child? .index = some ((keyTree k).withRole (some .index)) := rfl
  have hkind : (accessTree k).kind = .indexExpression := rfl
  rw [readKey?, if_pos hkind, hoperand, hindex]
  simp only [isMap, hcall, Bool.true_or, if_true, hkey]

/-- The expression `accessTree k` reads nothing but `k`. -/
lemma keysRead_accessTree (k : Text) (role : Option Role) :
    keysRead .standard [] ((accessTree k).withRole role) = [k] := by
  have hmap : keysRead .standard [] (mapTree.withRole (some .operand)) = [] := rfl
  have hkey : keysRead .standard [] ((keyTree k).withRole (some .index)) = [] := rfl
  have hparts : (accessTree k).children =
      [mapTree.withRole (some .operand), (keyTree k).withRole (some .index)] := rfl
  rw [keysRead_withRole _ _ _ rfl, readKey?_accessTree, hparts]
  simp only [keysReadIn, hmap, hkey, Option.toList_some, List.append_nil]

/-- The line `readTree k` reads nothing but `k`. -/
lemma keysRead_readTree (k : Text) (role : Option Role) :
    keysRead .standard [] ((readTree k).withRole role) = [k] := by
  let target : Node := branch .expressionList ⟨0, 0⟩ [leaf .identifier 0 (lit "_")]
  let value : Node := branch .expressionList ⟨0, 0⟩ [(accessTree k).withRole none]
  have htarget : keysRead .standard [] (target.withRole (some .left)) = [] := rfl
  have hvalue : keysRead .standard [] (value.withRole (some .right)) = [k] := by
    have hparts : value.children = [(accessTree k).withRole none] := rfl
    rw [keysRead_withRole _ _ _ rfl, readKey?_of_kind_ne _ _ (by simp [value, branch]), hparts]
    simp only [keysReadIn, keysRead_accessTree, Option.toList_none, List.nil_append,
      List.append_nil]
  have hparts : (readTree k).children =
      [target.withRole (some .left), value.withRole (some .right)] := rfl
  rw [keysRead_withRole _ _ _ rfl,
    readKey?_of_kind_ne _ _ (by simp [readTree, assignmentTree, branch]), hparts]
  simp only [keysReadIn, htarget, hvalue, Option.toList_none, List.nil_append, List.append_nil]

/-- After the line `readTree k` no variable holds the map. -/
lemma holdersAfter_readTree (k : Text) (role : Option Role) :
    holdersAfter .standard [] ((readTree k).withRole role) = [] := by
  have hbindings : bindings ((readTree k).withRole role) =
      [⟨[leaf .identifier 0 (lit "_")], [(accessTree k).withRole none]⟩] := rfl
  have heffects : Binding.effects .standard
      ⟨[leaf .identifier 0 (lit "_")], [(accessTree k).withRole none]⟩ = [(lit "_", false)] := by
    have hvalue : callsAccessor .standard ((accessTree k).withRole none) = false := by
      simp [callsAccessor, bare_of_kind_ne, accessTree, elementTree, branch, withRole]
    simp [Binding.effects, leaf, hvalue]
  rw [holdersAfter, hbindings, List.flatMap_singleton, heffects]
  rfl

/-- The lines read their `keys` one after the other. -/
lemma keysReadBy_readTree (keys : List Text) :
    keysReadBy .standard [] (keys.map fun k => (readTree k).withRole none) = keys := by
  induction keys with
  | nil => rfl
  | cons k ks ih =>
    rw [List.map_cons, keysReadBy, keysRead_readTree, holdersAfter_readTree, ih,
      List.singleton_append]

/-- The body `bodyTree keys` reads the route variables `keys`. -/
lemma ofBody_bodyTree (keys : List Text) (role : Option Role) :
    ofBody .standard ((bodyTree keys).withRole role) = keys := by
  have hstatements : statementsOf ((bodyTree keys).withRole role) =
      keys.map fun k => (readTree k).withRole none := by
    refine List.filter_eq_self.mpr fun n hn => ?_
    obtain ⟨k, -, rfl⟩ := List.mem_map.mp hn
    rfl
  rw [ofBody, hstatements, keysReadBy_readTree]

/-- The function `handlerTree h` has the shape of a handler. -/
lemma isHandler_handlerTree (h : Handler) (role : Option Role) :
    Signature.isHandler ((handlerTree h).withRole role) = true := by
  have htypes : Signature.parameterTypes ((handlerTree h).withRole role) =
      [(qualifiedTree (lit "http") (lit "ResponseWriter")).withRole (some .type),
        (pointerTree (qualifiedTree (lit "http") (lit "Request"))).withRole (some .type)] := rfl
  rw [Signature.isHandler, htypes]
  decide

/-- The function `handlerTree h` contributes the handler `h`. -/
lemma handlerOf?_handlerTree (h : Handler) (role : Option Role) :
    Classification.handlerOf? .standard ((handlerTree h).withRole role) = some h := by
  have hkind : ((handlerTree h).withRole role).kind = .functionDeclaration := rfl
  have hname : ((handlerTree h).withRole role).child? .name =
      some ((leaf .identifier 0 h.name).withRole (some .name)) := rfl
  have hbody : ((handlerTree h).withRole role).child? .body =
      some ((bodyTree h.routeVariables).withRole (some .body)) := rfl
  rw [Classification.handlerOf?, Verdict.of?, if_pos hkind, hname, hbody, isHandler_handlerTree]
  simp only [Option.map_some, if_true, Option.bind_some, Option.getD_some, ofBody_bodyTree]
  rfl

/-- The `handlers` of a file are found among its parts, and nothing else. -/
lemma handlersAmong_parts (package : Text) (handlers : List Handler) :
    Classification.handlersAmong .standard ((packageTree package).withRole none ::
      (importsTree [lit "net/http", lit "github.com/gorilla/mux"]).withRole none ::
      handlers.map fun h => (handlerTree h).withRole none) = handlers := by
  have hpackage : Classification.handlerOf? .standard ((packageTree package).withRole none) =
      none := rfl
  have himports (paths : List Text) :
      Classification.handlerOf? .standard ((importsTree paths).withRole none) = none := rfl
  rw [Classification.handlersAmong, List.filterMap_cons_none hpackage,
    List.filterMap_cons_none (himports _), List.filterMap_map]
  simp only [Function.comp_def, handlerOf?_handlerTree, List.filterMap_some]

/-- The first character of a source file is a letter. -/
lemma head?_source (package : Text) (handlers : List Handler) :
    (source package handlers).head? = some 'p' := by
  rw [source_eq]
  rfl

/-- Classifying a `source` file gives back the `handlers` that it was written for, in their order,
each with its keys in their order, however often they occur. Nothing depends on whether a name is
reserved. -/
theorem ofSource_source (package : Text) (handlers : List Handler) (hp : IsWord package)
    (hnames : ∀ h ∈ handlers, IsWord h.name) :
    Classification.ofSource .standard (source package handlers) = .ok ⟨package, handlers⟩ := by
  have hdepth : depthBound (source package handlers) =
      (4 * (source package handlers).length + 10) + 6 := rfl
  have hreads := reads_source (4 * (source package handlers).length + 10) hp hnames
  rw [← hdepth] at hreads
  have hmark : (source package handlers).head? ≠ some '\ufeff' := by
    rw [head?_source]
    decide
  obtain ⟨root, hroot, halike⟩ := exists_parseFile? hreads hmark
  have hpackage : SourceFile.packageName? root = some package := by
    rw [SourceFile.packageName?_eq_of_alike halike]
    rfl
  have hparse : SourceFile.parse (source package handlers) = .ok ⟨root, package⟩ := by
    rw [SourceFile.parse, hroot]
    simp only [hpackage]
  have hhandlers : Classification.handlersAmong .standard root.children = handlers := by
    rw [Classification.handlersAmong_eq_of_alikeParts _ halike.children]
    exact handlersAmong_parts package handlers
  rw [Classification.ofSource, hparse, Except.map, Classification.ofFile_eq, hhandlers]

/-- Handlers of which two have the same name, with keys that hold quotes, backslashes, control
characters, braces and the marks of comments, and with one key twice. -/
def awkwardHandlers : List Handler :=
  [⟨lit "Get", [lit "id", lit "\"\\\x00", lit "id"]⟩, ⟨lit "put_2", []⟩,
    ⟨lit "Get", [lit "\n\x7d // /* */"]⟩]

/-- Nothing about `awkwardHandlers` is lost. -/
theorem ofSource_source_awkwardHandlers :
    (∀ h ∈ awkwardHandlers, IsWord h.name) ∧
      Classification.ofSource .standard (source (lit "api") awkwardHandlers) =
        .ok ⟨lit "api", awkwardHandlers⟩ := by
  have hnames : ∀ h ∈ awkwardHandlers, IsWord h.name := by decide
  exact ⟨hnames, ofSource_source _ _ (by decide) hnames⟩

end RouteStubs.Fixture
