import RouteStubs.Proofs.Syntax.Quoting
import RouteStubs.Proofs.Syntax.Reads
import RouteStubs.Proofs.Template.RoundTrip
import RouteStubs.Proofs.Text.Lines
import RouteStubs.Run.Generator

/-!
# The lines of a stub

A stub is a text of lines: some in front of the tests, and as many for each test. What is written
for a list is a literal in a single line, whatever the members of the list are, so that route
variables never add a line, remove one or divide one in two. Where the names in a stub are
identifiers, the tests can be told by how their first lines begin, and each of them has exactly one
line with the route variables of its own handler.
-/

namespace RouteStubs

/-- A word `w` has only characters that can stand in one. -/
lemma Syntax.Token.IsWord.not_mem {w : Text} (h : IsWord w) {c : Char}
    (hstart : Text.isIdentifierStart c = false) (hcontinue : Text.isIdentifierContinue c = false) :
    c ∉ w := by
  cases w with
  | nil => exact List.not_mem_nil
  | cons d w =>
    rintro hmem
    rcases List.mem_cons.mp hmem with rfl | hmem
    · exact absurd h.1 (by simp [hstart])
    · exact absurd (List.all_eq_true.mp h.2 c hmem) (by simp [hcontinue])

/-- Words `w` and `w'` in front of texts that stop them are told apart from what follows them. -/
lemma Syntax.Token.IsWord.append_inj {w w' t t' : Text} (hw : IsWord w) (hw' : IsWord w')
    (ht : Stops t) (ht' : Stops t') (h : w ++ t = w' ++ t') : w = w' ∧ t = t' := by
  have hword := word_append hw ht
  rw [h, word_append hw' ht'] at hword
  cases hword
  exact ⟨rfl, rfl⟩

/-- An accessor `a` that has been read is written in a single line. -/
lemma Accessor.newline_not_mem_display {t : Text} {a : Accessor} (h : parse t = .ok a) :
    '\n' ∉ a.display := by
  have hname {n : Text} (hn : isName n = true) : '\n' ∉ n := by
    cases n with
    | nil => exact List.not_mem_nil
    | cons c n =>
      simp only [isName, Bool.and_eq_true] at hn
      intro hmem
      rcases List.mem_cons.mp hmem with rfl | hmem
      · exact absurd hn.1 (by decide)
      · exact absurd (List.all_eq_true.mp hn.2 _ hmem) (by decide)
  unfold parse at h
  split at h
  · cases h
  · split_ifs at h with hmodule hfunction
    cases h
    simp only [Bool.not_eq_true', Bool.not_eq_false] at hmodule hfunction
    simp [display, hname hmodule, hname hfunction]

namespace Template

/-! ## The stub as a text of lines -/

/-- The list `items` as a literal. -/
def listLiteral (items : List Text) : Text :=
  lit "[]string\x7b" ++ List.intercalate (lit ", ") (items.map Syntax.StringLiteral.quote) ++
    lit "\x7d"

/-- A list is written by `listWrites` as its `listLiteral`. -/
lemma flatten_listWrites (items : List Text) : (listWrites items).flatten = listLiteral items := by
  unfold listWrites listLiteral List.intercalate
  rw [List.flatten_append, List.flatten_cons, List.flatten_singleton]

lemma newline_not_mem_listLiteral (items : List Text) : '\n' ∉ listLiteral items := by
  have hitems : '\n' ∉ List.intercalate (lit ", ") (items.map Syntax.StringLiteral.quote) := by
    apply Text.newline_not_mem_intercalate (by decide)
    intro t ht
    obtain ⟨item, -, rfl⟩ := List.mem_map.mp ht
    exact Syntax.StringLiteral.newline_not_mem_quote item
  have hopening : '\n' ∉ lit "[]string\x7b" := by decide
  have hclosing : '\n' ∉ lit "\x7d" := by decide
  unfold listLiteral
  rw [List.mem_append, List.mem_append, not_or, not_or]
  exact ⟨⟨hopening, hitems⟩, hclosing⟩

/-- The line that names the file `source` first. -/
def originLine (source : Text) : Text :=
  lit "// Code generated by handlerstub from " ++ source ++ lit ". DO NOT EDIT."

/-- The lines between the two that name the source file. -/
def preamble (ctx : Context) : List Text := [
  lit "// Regenerating overwrites this file.",
  lit "// Route variables are read through " ++ ctx.accessor ++
    lit " and injected with mux.SetURLVars.",
  [],
  lit "package " ++ ctx.package,
  [],
  lit "import (",
  lit "\t\"net/http\"",
  lit "\t\"net/http/httptest\"",
  lit "\t\"testing\"",
  [],
  lit "\t\"github.com/gorilla/mux\"",
  lit ")",
  []]

/-- The line that names the file `source` a second time. -/
def foundLine (source : Text) (count : Nat) : Text :=
  lit "// Handlers found in " ++ source ++ lit " (" ++ Text.decimal count ++ lit ")."

/-- What the line with the route variables of the whole file begins with. -/
def variablesMark : Text := lit "var generatedRouteVariables = "

/-- The lines that declare what has been found in the file. -/
def declarations (ctx : Context) : List Text := [
  lit "var generatedHandlers = " ++ listLiteral ctx.handlerNames,
  [],
  lit "// Route variables read by the last handler in the file.",
  variablesMark ++ listLiteral ctx.routeVariables]

/-- What the first line of a test begins with. -/
def testMark : Text := lit "func Test"

/-- What the line with the route variables of a test begins with. -/
def loopMark : Text := lit "\tfor _, name := range "

/-- The first line of the test of the handler `h`. -/
def testLine (h : Handler) : Text := testMark ++ h.name ++ lit "(t *testing.T) \x7b"

/-- The line with the route variables of the handler `h`. -/
def loopLine (h : Handler) : Text := loopMark ++ listLiteral h.routeVariables ++ lit " \x7b"

/-- The lines of the test of `h` behind its first one. -/
def testBody (h : Handler) : List Text := [
  lit "\tvars := map[string]string\x7b\x7d",
  loopLine h,
  lit "\t\tvars[name] = \"test-\" + name",
  lit "\t\x7d",
  [],
  lit "\treq := httptest.NewRequest(http.MethodGet, \"/\", nil)",
  lit "\treq = mux.SetURLVars(req, vars)",
  lit "\trec := httptest.NewRecorder()",
  [],
  lit "\t" ++ h.name ++ lit "(rec, req)",
  [],
  lit "\tif rec.Code != http.StatusOK \x7b",
  lit "\t\tt.Errorf(\"" ++ h.name ++ lit ": got status %d, want %d\", rec.Code, http.StatusOK)",
  lit "\t\x7d",
  lit "\x7d"]

/-- The lines of the test of the handler `h`. The first one is empty. -/
def testLines (h : Handler) : List Text := [] :: testLine h :: testBody h

/-- The lines in front of the tests. -/
def headLines (ctx : Context) : List Text :=
  originLine ctx.source :: preamble ctx ++ foundLine ctx.source ctx.handlers.length ::
    declarations ctx

-- The characters of the constants are only compared once `String.toList_ofList` has spelled them
-- out: having them computed by reduction instead takes ten times as long.

/-- The test of the handler `h` as a text of lines. -/
lemma flatten_handlerStub (h : Handler) (index : Nat) :
    (handlerStub.flatMap (HandlerSegment.writes h index)).flatten = Text.unlines (testLines h) := by
  unfold handlerStub testLines testLine testBody loopLine testMark loopMark lit
  repeat rw [String.toList_append]
  repeat rw [String.toList_ofList]
  simp only [HandlerSegment.writes, HandlerField.writes, List.flatMap_cons, List.flatMap_nil,
    List.flatten_append, List.flatten_cons, List.flatten_nil, flatten_listWrites,
    Text.unlines_cons, Text.unlines_nil, List.cons_append, List.nil_append, List.append_nil,
    List.append_assoc]

/-- A filled `stub` is a text of lines. -/
lemma render_stub (ctx : Context) :
    render ctx stub = Text.unlines (headLines ctx ++ ctx.handlers.flatMap testLines) := by
  have htests : (ctx.handlers.zipIdx.flatMap fun numbered =>
      handlerStub.flatMap (HandlerSegment.writes numbered.1 numbered.2)).flatten =
        Text.unlines (ctx.handlers.flatMap testLines) := by
    generalize ctx.handlers = hs
    generalize 0 = n
    induction hs generalizing n with
    | nil => rfl
    | cons h hs ih =>
      rw [List.zipIdx_cons, List.flatMap_cons, List.flatten_append, flatten_handlerStub,
        List.flatMap_cons, Text.unlines_append, ih]
  unfold render writes stub headLines originLine preamble foundLine declarations variablesMark lit
  repeat rw [String.toList_append]
  repeat rw [String.toList_ofList]
  simp only [Segment.writes, FileField.writes, List.flatMap_cons, List.flatMap_nil,
    List.flatten_append, List.flatten_cons, flatten_listWrites, htests, Text.unlines_cons,
    List.cons_append, List.nil_append, List.append_nil, List.append_assoc]

/-! ## The stub as a template -/

/-- The template of the stub as a text. -/
def stubText : Text := Text.unlines [
  lit "// Code generated by handlerstub from \x7b\x7bsource\x7d\x7d. DO NOT EDIT.",
  lit "// Regenerating overwrites this file.",
  lit "// Route variables are read through " ++ lit "\x7b\x7baccessor\x7d\x7d" ++
    lit " and injected with mux.SetURLVars.",
  [],
  lit "package \x7b\x7bpackage\x7d\x7d",
  [],
  lit "import (",
  lit "\t\"net/http\"",
  lit "\t\"net/http/httptest\"",
  lit "\t\"testing\"",
  [],
  lit "\t\"github.com/gorilla/mux\"",
  lit ")",
  [],
  lit "// Handlers found in \x7b\x7bsource\x7d\x7d (\x7b\x7bhandler_count\x7d\x7d).",
  lit "var generatedHandlers = \x7b\x7bhandler_names\x7d\x7d",
  [],
  lit "// Route variables read by the last handler in the file.",
  lit "var generatedRouteVariables = \x7b\x7broute_variables\x7d\x7d",
  lit "\x7b\x7b#handlers\x7d\x7d",
  [],
  lit "func Test\x7b\x7bname\x7d\x7d(t *testing.T) \x7b",
  lit "\tvars := map[string]string\x7b\x7d",
  lit "\tfor _, name := range \x7b\x7broute_variables\x7d\x7d \x7b",
  lit "\t\tvars[name] = \"test-\" + name",
  lit "\t\x7d",
  [],
  lit "\treq := httptest.NewRequest(http.MethodGet, \"/\", nil)",
  lit "\treq = mux.SetURLVars(req, vars)",
  lit "\trec := httptest.NewRecorder()",
  [],
  lit "\t\x7b\x7bname\x7d\x7d(rec, req)",
  [],
  lit "\tif rec.Code != http.StatusOK \x7b",
  lit "\t\tt.Errorf(\"\x7b\x7bname\x7d\x7d: got status %d, want %d\", rec.Code, http.StatusOK)",
  lit "\t\x7d",
  lit "\x7d",
  lit "\x7b\x7b/handlers\x7d\x7d"]

set_option maxRecDepth 4000 in
/-- The template `stub` obeys the rules of templates. -/
lemma canonical_stub : Canonical (parts stub) := by
  unfold stub handlerStub lit
  repeat rw [String.toList_append]
  repeat rw [String.toList_ofList]
  simp [parts, Segment.toPart, HandlerSegment.toPart, canonical_cons, canonical_nil,
    canonicalSection_cons, canonicalSection_nil, TextBefore, BeginsWithTag, pairFree_cons,
    FileField.toField, HandlerField.toField, Field.standsInFile, Field.standsInSection]

set_option maxRecDepth 4000 in
/-- The text `stubText` is what the parts of `stub` are written down as. -/
lemma printParts_stub : printParts (parts stub) = stubText := by
  generalize htext : stubText = t
  simp only [stub, handlerStub, parts, Segment.toPart, HandlerSegment.toPart, FileField.toField,
    HandlerField.toField, List.map_cons, List.map_nil, printParts, Part.print]
  rw [← htext]
  unfold stubText braced Field.tag openTag closeTag lit
  repeat rw [String.toList_append]
  repeat rw [String.toList_ofList]
  simp only [Text.unlines_cons, Text.unlines_nil, List.cons_append, List.nil_append,
    List.append_nil]

/-- The template `stub` is read from `stubText`. -/
lemma parse_stubText : parse stubText = .ok stub := by
  rw [← printParts_stub]
  exact assemble_printParts stub canonical_stub 0

/-! ## Stretches of lines -/

section Stretches

variable {α β : Type} {p : α → Bool}

/-- Each member of a list with the property `p`, and what stands behind it up to the next one. -/
def stretches (p : α → Bool) : List α → List (α × List α)
  | [] => []
  | a :: l => if p a then (a, l.takeWhile (!p ·)) :: stretches p l else stretches p l

/-- Each member with the property `p` begins a stretch. -/
lemma map_fst_stretches (p : α → Bool) (l : List α) :
    (stretches p l).map Prod.fst = l.filter p := by
  induction l with
  | nil => rfl
  | cons a l ih => by_cases h : p a = true <;> simp [stretches, h, ih]

/-- What stands in front of the first member with the property `p` is in no stretch. -/
lemma stretches_append_of_filter_eq_nil {head : List α} (h : head.filter p = []) (l : List α) :
    stretches p (head ++ l) = stretches p l := by
  induction head with
  | nil => rfl
  | cons a head ih =>
    have ha : p a = false := by
      simpa using List.filter_eq_nil_iff.mp h a List.mem_cons_self
    have hhead : head.filter p = [] := by simpa [ha] using h
    rw [List.cons_append, stretches, ha, ih hhead]
    rfl

/-- Stretches that have been put together one behind the other are found again by `stretches`. -/
lemma stretches_flatMap {first : β → α} {others : β → List α} {xs : List β}
    (hfirst : ∀ x ∈ xs, p (first x) = true) (hothers : ∀ x ∈ xs, (others x).filter p = []) :
    stretches p (xs.flatMap fun x => first x :: others x) =
      xs.map fun x => (first x, others x) := by
  induction xs with
  | nil => rfl
  | cons x xs ih =>
    have hx := hfirst x List.mem_cons_self
    have hfree : ∀ a ∈ others x, (!p a) = true := fun a ha => by
      simpa using List.filter_eq_nil_iff.mp (hothers x List.mem_cons_self) a ha
    have hbehind : (xs.flatMap fun x => first x :: others x).takeWhile (!p ·) = [] := by
      cases xs with
      | nil => rfl
      | cons y ys => simp [hfirst y (by simp)]
    rw [List.flatMap_cons, List.cons_append, stretches, if_pos hx,
      List.takeWhile_append_of_pos hfree, hbehind, List.append_nil,
      stretches_append_of_filter_eq_nil (hothers x List.mem_cons_self),
      ih (fun y hy => hfirst y (List.mem_cons_of_mem x hy))
        fun y hy => hothers y (List.mem_cons_of_mem x hy), List.map_cons]

end Stretches

/-! ## How the lines begin -/

/-- No line in front of the tests begins with `testMark`. -/
lemma filter_testMark_headLines (ctx : Context) :
    (headLines ctx).filter (testMark.isPrefixOf ·) = [] := by
  unfold testMark headLines originLine preamble foundLine declarations variablesMark lit
  repeat rw [String.toList_ofList]
  simp

/-- One line in front of the tests begins with `variablesMark`, and it declares the route variables
of the file. -/
lemma filter_variablesMark_headLines (ctx : Context) :
    (headLines ctx).filter (variablesMark.isPrefixOf ·) =
      [variablesMark ++ listLiteral ctx.routeVariables] := by
  unfold headLines originLine preamble foundLine declarations variablesMark lit
  repeat rw [String.toList_ofList]
  simp

/-- No line of a test behind its first one begins with `testMark`. -/
lemma filter_testMark_testBody (h : Handler) :
    (testBody h).filter (testMark.isPrefixOf ·) = [] := by
  unfold testMark testBody loopLine loopMark lit
  repeat rw [String.toList_ofList]
  simp

/-- No line of a test begins with `variablesMark`. -/
lemma filter_variablesMark_testLines (h : Handler) :
    (testLines h).filter (variablesMark.isPrefixOf ·) = [] := by
  unfold variablesMark testLines testLine testMark testBody loopLine loopMark lit
  repeat rw [String.toList_ofList]
  simp

/-- One line of a test begins with `loopMark`, and it has the route variables of its handler. -/
lemma filter_loopMark_testBody {h : Handler} (hname : Syntax.Token.IsWord h.name) :
    (testBody h).filter (loopMark.isPrefixOf ·) = [loopLine h] := by
  -- The line that calls the handler begins with its name: a word `for` would end at a blank, and
  -- the name ends at a parenthesis.
  have hcall : ¬ lit "for _, name := range " <+: h.name ++ lit "(rec, req)" := by
    unfold lit
    rw [String.toList_ofList, String.toList_ofList]
    rintro ⟨rest, hrest⟩
    have hfor : Syntax.Token.IsWord ['f', 'o', 'r'] := by decide
    have hsame := hfor.append_inj hname (Syntax.Token.stops_cons (by decide) _)
      (Syntax.Token.stops_cons (by decide) _) hrest
    simp at hsame
  unfold lit at hcall
  unfold testBody loopLine loopMark lit
  repeat rw [String.toList_ofList]
  repeat rw [String.toList_ofList] at hcall
  simp [hcall]

/-! ## The structure of a stub -/

/-- The names of what has been `found` in a file are identifiers. -/
structure Named (found : Classification) : Prop where
  package : Syntax.Token.IsWord found.package
  handlers : ∀ h ∈ found.handlers, Syntax.Token.IsWord h.name

/-- A line feed is in no identifier. -/
lemma newline_not_mem_of_isWord {w : Text} (h : Syntax.Token.IsWord w) : '\n' ∉ w :=
  h.not_mem (by decide) (by decide)

/-- The `headLines` have no line feeds of their own. -/
lemma newline_not_mem_headLines {ctx : Context} (hsource : '\n' ∉ ctx.source)
    (haccessor : '\n' ∉ ctx.accessor) (hpackage : '\n' ∉ ctx.package) :
    ∀ l ∈ headLines ctx, '\n' ∉ l := by
  unfold headLines originLine preamble foundLine declarations variablesMark lit
  repeat rw [String.toList_ofList]
  simp [hsource, haccessor, hpackage, newline_not_mem_listLiteral, Text.newline_not_mem_decimal]

/-- The `testLines` have no line feeds of their own. -/
lemma newline_not_mem_testLines {h : Handler} (hname : '\n' ∉ h.name) :
    ∀ l ∈ testLines h, '\n' ∉ l := by
  unfold testLines testLine testMark testBody loopLine loopMark lit
  repeat rw [String.toList_ofList]
  simp [hname, newline_not_mem_listLiteral]

/-- The lines of a stub are its `headLines`, the `testLines` of each handler and an empty line. -/
lemma lines_renderStub {found : Classification} (hnamed : Named found) {source : Text}
    (hsource : '\n' ∉ source) {a : Accessor} (haccessor : '\n' ∉ a.display) :
    Text.lines (Generator.renderStub found source a) =
      headLines (.ofClassification found source a) ++ found.handlers.flatMap testLines ++ [[]] := by
  unfold Generator.renderStub
  rw [render_stub, Text.lines_unlines_of_forall]
  · rfl
  · intro l hl
    rcases List.mem_append.mp hl with hl | hl
    · exact newline_not_mem_headLines hsource haccessor
        (newline_not_mem_of_isWord hnamed.package) l hl
    · obtain ⟨h, hh, hl⟩ := List.mem_flatMap.mp hl
      exact newline_not_mem_testLines (newline_not_mem_of_isWord (hnamed.handlers h hh)) l hl

/-- Two handlers, the first of which reads route variables that look like lines of a stub. -/
def hostile : Classification :=
  ⟨lit "p", [⟨lit "F", [lit "\"\nfunc TestG(t *testing.T) \x7b\n", lit "\n"]⟩, ⟨lit "for", []⟩]⟩

/-- The empty line in front of each test can be counted to what stands before it. -/
lemma flatMap_testLines_append (hs : List Handler) :
    hs.flatMap testLines ++ [[]] =
      [] :: hs.flatMap fun h => testLine h :: (testBody h ++ [[]]) := by
  induction hs with
  | nil => rfl
  | cons h hs ih =>
    rw [List.flatMap_cons, List.append_assoc, ih, List.flatMap_cons]
    simp only [testLines, List.cons_append, List.append_assoc, List.nil_append]

/-- The `stretches` of a stub are its tests, each with the lines behind its first line. -/
lemma stretches_testMark (ctx : Context) (hs : List Handler) :
    stretches (testMark.isPrefixOf ·) (headLines ctx ++ hs.flatMap testLines ++ [[]]) =
      hs.map fun h => (testLine h, testBody h ++ [[]]) := by
  have hempty : [([] : Text)].filter (testMark.isPrefixOf ·) = [] := by decide
  have hhead : (headLines ctx ++ [[]]).filter (testMark.isPrefixOf ·) = [] := by
    rw [List.filter_append, filter_testMark_headLines, hempty, List.append_nil]
  have hregroup : headLines ctx ++ hs.flatMap testLines ++ [[]] =
      (headLines ctx ++ [[]]) ++ hs.flatMap fun h => testLine h :: (testBody h ++ [[]]) := by
    rw [List.append_assoc, flatMap_testLines_append, List.append_assoc, List.singleton_append]
  rw [hregroup, stretches_append_of_filter_eq_nil hhead, stretches_flatMap]
  · intro h _
    rw [testLine, List.append_assoc]
    exact List.isPrefixOf_iff_prefix.mpr (List.prefix_append _ _)
  · intro h _
    rw [List.filter_append, filter_testMark_testBody, hempty, List.append_nil]

/-- The structure of a stub. Its template is read from the text of the template. The first lines of
tests are those of the handlers, in their order; the only line with route variables between one of
them and the next has those of the same handler; the route variables of the file are those of the
last handler; and the number of lines is a matter of the number of handlers. No condition is made on
route variables. -/
theorem stub_structure {found : Classification} (hnamed : Named found) {t : Text} {a : Accessor}
    (ha : Accessor.parse t = .ok a) {source : Text} (hsource : '\n' ∉ source) :
    parse stubText = .ok stub ∧
      let ls := Text.lines (Generator.renderStub found source a)
      ls.filter (testMark.isPrefixOf ·) = found.handlers.map testLine ∧
        ((stretches (testMark.isPrefixOf ·) ls).map fun s =>
            (s.1, s.2.filter (loopMark.isPrefixOf ·))) =
          found.handlers.map (fun h => (testLine h, [loopLine h])) ∧
        ls.filter (variablesMark.isPrefixOf ·) =
          [variablesMark ++
            listLiteral ((found.handlers.getLast?.map Handler.routeVariables).getD [])] ∧
        ls.length = 20 + 17 * found.handlers.length := by
  have hlines := lines_renderStub hnamed hsource (Accessor.newline_not_mem_display ha)
  have hstretches := stretches_testMark (.ofClassification found source a) found.handlers
  refine ⟨parse_stubText, ?_⟩
  rw [hlines]
  refine ⟨?_, ?_, ?_, ?_⟩
  · rw [← map_fst_stretches, hstretches, List.map_map]
    rfl
  · rw [hstretches, List.map_map]
    apply List.map_congr_left
    intro h hh
    have hempty : [([] : Text)].filter (loopMark.isPrefixOf ·) = [] := by decide
    simp only [Function.comp, List.filter_append, hempty, List.append_nil,
      filter_loopMark_testBody (hnamed.handlers h hh)]
  · have htests : (found.handlers.flatMap testLines).filter (variablesMark.isPrefixOf ·) = [] := by
      rw [List.filter_flatMap]
      exact List.flatMap_eq_nil_iff.mpr fun h _ => filter_variablesMark_testLines h
    have hempty : [([] : Text)].filter (variablesMark.isPrefixOf ·) = [] := by decide
    rw [List.filter_append, List.filter_append, filter_variablesMark_headLines, htests, hempty]
    rfl
  · have hhead : (headLines (.ofClassification found source a)).length = 19 := rfl
    have htest (h : Handler) : (testLines h).length = 17 := rfl
    have htests : (found.handlers.flatMap testLines).length = found.handlers.length * 17 := by
      simp [htest]
    rw [List.length_append, List.length_append, hhead, htests, List.length_singleton]
    omega

/-- The route variables of `hostile`, which look like lines of a stub, make no tests. -/
theorem stub_structure_hostile :
    let ls := Text.lines (Generator.renderStub hostile (lit "x.go") ⟨lit "m", lit "V"⟩)
    ls.filter (testMark.isPrefixOf ·) = hostile.handlers.map testLine ∧ ls.length = 54 := by
  have hnamed : Named hostile := ⟨by decide, by decide⟩
  have haccessor : Accessor.parse (lit "m.V") = .ok ⟨lit "m", lit "V"⟩ := by decide +kernel
  have hsource : '\n' ∉ lit "x.go" := by decide
  obtain ⟨-, htests, -, -, hlength⟩ := stub_structure hnamed haccessor hsource
  exact ⟨htests, hlength⟩

end Template

end RouteStubs
