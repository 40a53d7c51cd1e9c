import RouteStubs.Proofs.Syntax.Bodies
import RouteStubs.Syntax.File

/-!
# Readings of files

How package clauses, imports and functions are read, and files that consist of them. At the
outermost level of a file statements are tried beside declarations, so each declaration comes with
the reason why no statement begins there.
-/

namespace RouteStubs.Syntax

open RouteStubs.Syntax.Parser Token Node

variable {phrase : Phrases} {t u rest : Text} {m : Node}

namespace Declarations

/-! ## Trees -/

/-- The tree of the clause for `package`. -/
def packageTree (package : Text) : Node :=
  .branch .packageClause ⟨0, 0⟩ [(Node.leaf .packageIdentifier 0 package).withRole none]

/-- The tree of the import of `path`. -/
def importTree (path : Text) : Node :=
  .branch .importSpec ⟨0, 0⟩
    [(Node.leaf .interpretedStringLiteral 0 (StringLiteral.quote path)).withRole none]

/-- The tree of the imports of `paths` between parentheses. -/
def importsTree (paths : List Text) : Node :=
  .branch .importDeclaration ⟨0, 0⟩
    [(Node.branch .importSpecList ⟨0, 0⟩
      (paths.map fun path => (importTree path).withRole none)).withRole none]

/-- The tree of the function `name` without result. -/
def functionTree (name : Text) (parameters body : Node) : Node :=
  .branch .functionDeclaration ⟨0, 0⟩
    [(Node.leaf .identifier 0 name).withRole (some .name),
      parameters.withRole (some .parameters), body.withRole (some .body)]

/-! ## Package clauses -/

/-- A package clause is read by `packageClause`. -/
lemma reads_packageClause {package : Text} (hp : IsWord package) (hrest : Stops rest) :
    Reads packageClause (lit "package" ++ ' ' :: (package ++ rest)) rest
      (Alike (packageTree package)) := by
  have hpackage : IsWord (lit "package") := by decide
  have hkeyword : Reads (keyword .free "package") (lit "package" ++ ' ' :: (package ++ rest))
      (' ' :: (package ++ rest)) (AlikeParts []) :=
    reads_keyword hpackage (stops_cons (by decide) _) (meets_word hpackage _)
  have hname : Reads (part .free none (name .packageIdentifier [])) (' ' :: (package ++ rest)) rest
      (AlikeParts [(Node.leaf .packageIdentifier 0 package).withRole none]) :=
    (reads_name hp hrest _ rfl).part ((meets_word hp rest).blank (by decide)) _
  exact (hkeyword.append hname).construct .packageClause

/-! ## Imports -/

/-- Before the path of an import there is no name. -/
lemma fails_importName {c : Char} (hc : (!Token.isBlank c && c != '/') = true)
    (hword : Text.isIdentifierStart c = false) (hdot : c ≠ '.') (t : Text) :
    Fails (part .free (some .name) importName) (c :: t) := by
  have hmeets : Meets .free (c :: t) (c :: t) := meets_cons hc t
  have hmark : Fails (mark .free ".") (c :: t) :=
    fails_mark (by simpa using hdot.symm) hmeets
  have hname : Fails importWord (c :: t) := fun o => by
    simp [importWord, fails_name (word_cons_eq_none hword t) .packageIdentifier [] o]
  exact ((hmark.construct _).orElse hname).part hmeets _

/-- The import of one `path` is read by `importSpec`. -/
lemma reads_importSpec (path rest : Text) :
    Reads importSpec (StringLiteral.quote path ++ rest) rest (Alike (importTree path)) := by
  have hname : Fails (part .free (some .name) importName) (StringLiteral.quote path ++ rest) := by
    rw [StringLiteral.quote_append]
    exact fails_importName (by decide) (by decide) (by decide) _
  have hpath : Reads stringLiteral (StringLiteral.quote path ++ rest) rest
      (Alike (.leaf .interpretedStringLiteral 0 (StringLiteral.quote path))) := by
    intro o
    obtain ⟨n, o', heq, hn⟩ := Expressions.reads_literal_quote path rest o
    refine ⟨n, o', ?_, hn⟩
    rw [StringLiteral.quote_append] at heq ⊢
    simpa [stringLiteral] using heq
  exact (hname.optional.append (hpath.part (Expressions.meets_quote path rest) none)).construct
    .importSpec

/-- No import begins with a character `c` that begins neither a name nor a literal. -/
lemma fails_importSpec {c : Char} (hc : (!Token.isBlank c && c != '/') = true)
    (hword : Text.isIdentifierStart c = false) (hdot : c ≠ '.') (hquote : c ≠ '"')
    (hraw : c ≠ backquote) (t : Text) : Fails importSpec (c :: t) := by
  have hpath : Fails stringLiteral (c :: t) := fun o => by
    simp [stringLiteral, hraw]
  exact ((fails_importName hc hword hdot t).optional.append_fails
    (hpath.part (meets_cons hc t) none)).construct _

/-- The imports of `path₁` and `path₂`, each on its line, with an empty line between them. -/
lemma reads_importSpecs (path₁ path₂ rest : Text) :
    Reads (entries (part .free none importSpec))
      ('\n' :: '\t' :: (StringLiteral.quote path₁ ++
        '\n' :: '\n' :: '\t' :: (StringLiteral.quote path₂ ++ '\n' :: ')' :: rest)))
      (')' :: rest)
      (AlikeParts ([path₁, path₂].map fun path => (importTree path).withRole none)) := by
  have hpart (path u : Text) : Reads (part .free none importSpec)
      ('\n' :: '\t' :: (StringLiteral.quote path ++ u)) u
      (AlikeParts [(importTree path).withRole none]) :=
    (reads_importSpec path u).part
      (((Expressions.meets_quote path u).blank (by decide)).blank (by decide)) none
  have hlast : Fails (terminator ++ part .free none importSpec) ('\n' :: ')' :: rest) :=
    (reads_terminator _).append_fails ((fails_importSpec (by decide) (by decide) (by decide)
      (by decide) (by decide) rest).part (meets_cons (by decide) rest) none)
  have hmore := ((reads_terminator _).append (hpart path₂ ('\n' :: ')' :: rest))).repeats
    (by simp only [List.length_cons, List.length_append]; omega) hlast.repeats
  exact (((hpart path₁ _).append hmore.many).append (reads_terminator _).optional).optional

/-- The imports of `path₁` and `path₂` between parentheses. -/
lemma reads_importDeclaration (path₁ path₂ rest : Text) :
    Reads importDeclaration
      (lit "import" ++ ' ' :: '(' :: '\n' :: '\t' :: (StringLiteral.quote path₁ ++
        '\n' :: '\n' :: '\t' :: (StringLiteral.quote path₂ ++ '\n' :: ')' :: rest))) rest
      (Alike (importsTree [path₁, path₂])) := by
  have himport : IsWord (lit "import") := by decide
  have hopen (v : Text) : Reads (mark .free "(") ('(' :: v) v (AlikeParts []) :=
    reads_mark_cons (by decide) rfl (by decide) v
  have hclose : Reads (mark .free ")") (')' :: rest) rest (AlikeParts []) :=
    reads_mark_cons (by decide) rfl (by decide) rest
  have hgroup := (((hopen _).append (reads_importSpecs path₁ path₂ rest)).append
    hclose).construct .importSpecList
  have hspec (v : Text) : Fails importSpec ('(' :: v) :=
    fails_importSpec (by decide) (by decide) (by decide) (by decide) (by decide) v
  have hmeets (v : Text) : Meets .free (' ' :: '(' :: v) ('(' :: v) :=
    (meets_cons (by decide) v).blank (by decide)
  have hkeyword (v : Text) : Reads (keyword .free "import") (lit "import" ++ ' ' :: v) (' ' :: v)
      (AlikeParts []) :=
    reads_keyword himport (stops_cons (by decide) v) (meets_word himport _)
  exact ((hkeyword _).append ((hgroup.orElse_right (hspec _)).part (hmeets _) none)).construct
    .importDeclaration

/-! ## Functions -/

/-- In front of a body there is no `result`. -/
lemma reads_result (hresult : Fails (phrase (.type .sameLine)) ('\x7b' :: t)) :
    Reads (Types.result phrase [] .sameLine) (' ' :: '\x7b' :: t) (' ' :: '\x7b' :: t)
      (AlikeParts []) := by
  have hmeets : Meets .sameLine (' ' :: '\x7b' :: t) ('\x7b' :: t) :=
    (meets_cons (by decide) t).blank (by decide)
  have hword : word ('\x7b' :: t) = none := word_cons_eq_none (by decide) t
  intro o
  obtain ⟨o', hgap, -⟩ := hmeets.clear o
  simpa [Types.result, hgap, hword] using (hresult.part hmeets none).optional o

/-- A function without result is read by `functionDeclaration`. -/
lemma reads_functionDeclaration {name : Text} {parameters body : Node} (hn : IsWord name)
    (hparameters : Reads (Types.parameters phrase) ('(' :: t) (' ' :: '\x7b' :: u)
      (Alike parameters))
    (hresult : Fails (phrase (.type .sameLine)) ('\x7b' :: u))
    (hbody : Reads (phrase .block) ('\x7b' :: u) rest (Alike body)) :
    Reads (functionDeclaration phrase) (lit "func" ++ ' ' :: (name ++ '(' :: t)) rest
      (Alike (functionTree name parameters body)) := by
  have hfunc : IsWord (lit "func") := by decide
  have hkeyword : Reads (keyword .free "func") (lit "func" ++ ' ' :: (name ++ '(' :: t))
      (' ' :: (name ++ '(' :: t)) (AlikeParts []) :=
    reads_keyword hfunc (stops_cons (by decide) _) (meets_word hfunc _)
  have hname : Reads (part .free (some .name) (Parser.name .identifier []))
      (' ' :: (name ++ '(' :: t)) ('(' :: t) _ :=
    (reads_name hn (stops_cons (by decide) _) .identifier rfl).part
      ((meets_word hn _).blank (by decide)) _
  have hopen : Meets .free ('(' :: t) ('(' :: t) := meets_cons (by decide) t
  have hbracket : Fails (mark .free "[") ('(' :: t) := fails_mark (by decide) hopen
  have htypes : Fails (part .free none (Types.typeParameters phrase [])) ('(' :: t) :=
    (((((hbracket.append _).append _).append _).append _).construct _).part hopen none
  have hlist := hparameters.part hopen (some .parameters)
  have hblock : Reads (optional (part .sameLine (some .body) (phrase .block)))
      (' ' :: '\x7b' :: u) rest _ :=
    (hbody.part ((meets_cons (by decide) u).blank (by decide)) _).optional
  have hsignature : Reads (signatureAndBody phrase) ('(' :: t) rest _ :=
    (hlist.append (reads_result hresult)).append hblock
  exact (((hkeyword.append hname).append htypes.optional).append hsignature).construct
    .functionDeclaration

/-! ## Declarations among each other -/

/-- Without its keyword there is no package clause. -/
lemma fails_packageClause (h : Fails (keyword .free "package") t) : Fails packageClause t :=
  (h.append _).construct _

/-- Without its keyword there is no import. -/
lemma fails_importDeclaration (h : Fails (keyword .free "import") t) : Fails importDeclaration t :=
  (h.append _).construct _

/-- No declaration begins at the end of a text. -/
lemma fails_outerDeclaration_nil : Fails (outerDeclaration phrase) [] := by
  have hkeyword (w : String) : Fails (keyword .free w) [] :=
    fails_keyword (by simp [word]) (meets_nil .free)
  refine (fails_packageClause (hkeyword _)).orElse ((fails_importDeclaration (hkeyword _)).orElse
    (Fails.orElse ?_ ?_))
  · exact ((((hkeyword _).append _).append _).append _).construct _
  · exact ((((hkeyword _).append _).append _).append _).construct _

end Declarations

open Declarations

/-! ## Entries of a file -/

/-- A declaration where no statement begins is read by `outerEntry`. -/
lemma reads_outerEntry (ht : Meets .free t u) (h : Reads (outerDeclaration phrase) u rest (Alike m))
    (hstatement : Fails (outerEntry.outerStatement phrase) u) :
    Reads (outerEntry phrase) t rest (AlikeParts [m.withRole none]) := by
  refine Reads.part (fun o => ?_) ht none
  obtain ⟨n, o', heq, ho', hn⟩ := h o
  exact ⟨n, o', by simp [heq, hstatement o, Reading.heaviest, Reading.enter], ho', hn⟩

/-- Statements are not looked for by `outerEntry` where a package clause or an import begins. -/
lemma fails_outerStatement_of_word {w : Text} (hw : IsWord w) (ht : Stops t)
    (hk : (["package", "import"].any fun k => w = k.toList) = true) :
    Fails (outerEntry.outerStatement phrase) (w ++ t) := by
  intro o
  unfold outerEntry.outerStatement
  split
  · rfl
  · simp only [guarding, word_append hw ht, Option.any_some, hk, Bool.not_true, Bool.false_eq_true,
      if_false]

/-- Where no statement begins, `outerEntry` finds none. -/
lemma fails_outerStatement (h : Fails (phrase (.statement .outermost)) t) :
    Fails (outerEntry.outerStatement phrase) t := by
  intro o
  unfold outerEntry.outerStatement guarding
  split
  · rfl
  · split
    · exact h o
    · rfl

/-- A package clause is an `outerEntry`. -/
lemma reads_outerEntry_package {package : Text} (hp : IsWord package) (hrest : Stops rest) :
    Reads (outerEntry phrase) (lit "package" ++ ' ' :: (package ++ rest)) rest
      (AlikeParts [(packageTree package).withRole none]) := by
  have hpackage : IsWord (lit "package") := by decide
  exact reads_outerEntry (meets_word hpackage _) ((reads_packageClause hp hrest).orElse_left _)
    (fails_outerStatement_of_word hpackage (stops_cons (by decide) _) (by decide))

/-- Imports are an `outerEntry`, after an empty line. -/
lemma reads_outerEntry_imports (path₁ path₂ rest : Text) :
    Reads (outerEntry phrase)
      ('\n' :: (lit "import" ++ ' ' :: '(' :: '\n' :: '\t' :: (StringLiteral.quote path₁ ++
        '\n' :: '\n' :: '\t' :: (StringLiteral.quote path₂ ++ '\n' :: ')' :: rest)))) rest
      (AlikeParts [(importsTree [path₁, path₂]).withRole none]) := by
  have himport : IsWord (lit "import") := by decide
  have hstops (v : Text) : Stops (' ' :: v) := stops_cons (by decide) v
  have hpackage (v : Text) : Fails packageClause (lit "import" ++ ' ' :: v) :=
    fails_packageClause (fails_keyword_of_word himport (hstops v) (by decide)
      (meets_word himport _))
  exact reads_outerEntry ((meets_word himport _).blank (by decide))
    (((reads_importDeclaration path₁ path₂ rest).orElse_left _).orElse_right (hpackage _))
    (fails_outerStatement_of_word himport (hstops _) (by decide))

/-- A function is an `outerEntry`, after an empty line. -/
lemma reads_outerEntry_function {name : Text}
    (h : Reads (functionDeclaration phrase) (lit "func" ++ ' ' :: (name ++ t)) rest (Alike m))
    (hstatement : Fails (phrase (.statement .outermost)) (lit "func" ++ ' ' :: (name ++ t))) :
    Reads (outerEntry phrase) ('\n' :: (lit "func" ++ ' ' :: (name ++ t))) rest
      (AlikeParts [m.withRole none]) := by
  have hfunc : IsWord (lit "func") := by decide
  have hmeets : Meets .free (lit "func" ++ ' ' :: (name ++ t)) (lit "func" ++ ' ' :: (name ++ t)) :=
    meets_word hfunc _
  have hstops : Stops (' ' :: (name ++ t)) := stops_cons (by decide) _
  have hpackage := fails_packageClause (fails_keyword_of_word hfunc hstops (by decide) hmeets)
  have himport := fails_importDeclaration (fails_keyword_of_word hfunc hstops (by decide) hmeets)
  exact reads_outerEntry (hmeets.blank (by decide))
    (((h.orElse_left _).orElse_right himport).orElse_right hpackage)
    (fails_outerStatement hstatement)

/-- At the end of a text there is no further entry. -/
lemma fails_outerEntry_nil (h : Fails (phrase (.statement .outermost)) []) :
    Fails (outerEntry phrase) [] := by
  refine Fails.part (fun o => ?_) (meets_nil .free) none
  simp [fails_outerDeclaration_nil o, fails_outerStatement h o, Reading.heaviest]

/-! ## Files -/

/-- A file that consists of entries with a terminator behind each is read by `fileParts`. -/
lemma reads_fileParts {ms : List Node}
    (h : Repeats (outerEntry phrase ++ terminator) t [] (AlikeParts ms)) :
    Reads (fileParts phrase) t [] (AlikeParts ms) := by
  have hlast : Reads (optional (part .free none (outerDeclaration phrase))) [] []
      (AlikeParts []) := (fails_outerDeclaration_nil.part (meets_nil .free) none).optional
  have hcomments : Reads (comments .free) [] [] (AlikeParts []) :=
    (reads_done alikeParts_nil []).spaced (meets_nil .free)
  have hparts := (h.many.append hlast).append hcomments
  rwa [List.append_nil, List.append_nil] at hparts

/-- By `parseFile?` a file whose parts can be read to the end has a tree with these parts. -/
lemma exists_parseFile? {ms : List Node}
    (h : Reads (fileParts (phraseWithin (depthBound t))) t [] (AlikeParts ms))
    (hmark : t.head? ≠ some '\ufeff') :
    ∃ root, parseFile? t = some root ∧ Alike (.branch .sourceFile ⟨0, 0⟩ ms) root := by
  obtain ⟨ns, o, heq, -, hns⟩ := h 0
  have hstart : withoutByteOrderMark t = ⟨0, t⟩ := by
    unfold withoutByteOrderMark
    split
    · simp at hmark
    · rfl
  refine ⟨.branch .sourceFile ⟨0, t.length⟩ ns, ?_, hns.branch _ _ _⟩
  simp [parseFile?, hstart, heq, Reading.heaviest, Reading.enter]

end RouteStubs.Syntax
