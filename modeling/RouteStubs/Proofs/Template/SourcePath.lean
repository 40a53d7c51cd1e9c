import RouteStubs.Proofs.Template.StubLines

/-!
# The path in a stub

A stub names the path of its source file in two lines, both of them comments. The path is written as
it is: the lines that stand behind a line feed in it are lines of the stub too, and those among them
that are no comments are lines of code. What a path adds to the code of a stub in this way is settled
by its stray lines, and a path without line feeds adds nothing.
-/

namespace RouteStubs.Template

/-- The line `l` is a comment. -/
def isComment (l : Text) : Bool :=
  (lit "//").isPrefixOf l

/-- The lines of `t` that are not comments. -/
def codeLines (t : Text) : List Text :=
  (Text.lines t).filter (!isComment ·)

/-- The lines of `path` behind the first one that are not comments. -/
def strayLines (path : Text) : List Text :=
  (Text.lines path).tail.filter (!isComment ·)

/-- The last line of `path` stands behind another one and is not a comment. -/
def endsAstray (path : Text) : Bool :=
  (Text.lines path).tail.getLast?.any (!isComment ·)

/-! ## Stray lines -/

/-- A `path` without line feeds has no `strayLines`. -/
lemma strayLines_of_not_mem {path : Text} (h : '\n' ∉ path) : strayLines path = [] := by
  rw [strayLines, Text.lines_of_not_mem h]
  rfl

/-- A `path` without line feeds has no last line that is astray. -/
lemma endsAstray_of_not_mem {path : Text} (h : '\n' ∉ path) : endsAstray path = false := by
  rw [endsAstray, Text.lines_of_not_mem h]
  rfl

/-- What is added to a line `l` does not make a comment of it, unless it begins with a slash. -/
lemma isComment_append (l : Text) {b : Text} (hb : b.head? ≠ some '/') :
    isComment (l ++ b) = isComment l := by
  have hmark : lit "//" = ['/', '/'] := by decide
  unfold isComment
  rw [hmark]
  cases b with
  | nil => rw [List.append_nil]
  | cons c b =>
    have hc : '/' ≠ c := fun h => hb (by rw [h]; rfl)
    match l with
    | [] => simp [List.isPrefixOf, hc]
    | [d] => simp [List.isPrefixOf, hc]
    | d :: e :: l => simp [List.isPrefixOf]

/-- The stray lines of `path`, and of `path ++ b`: only the last stray line is changed, and only if
the path ends with it. -/
lemma exists_strayLines_append (path : Text) :
    ∃ (before : List Text) (last? : Option Text),
      strayLines path = before ++ last?.toList ∧ endsAstray path = last?.isSome ∧
        ∀ b : Text, b.head? ≠ some '/' → '\n' ∉ b →
          strayLines (path ++ b) = before ++ (last?.map (· ++ b)).toList := by
  rcases Text.not_mem_or_exists_last_line path with hplain | ⟨u, l, rfl, hl⟩
  · refine ⟨[], none, strayLines_of_not_mem hplain, endsAstray_of_not_mem hplain, ?_⟩
    intro b _ hb
    exact strayLines_of_not_mem (by simp [hplain, hb])
  · have htail (v : Text) (hv : '\n' ∉ v) :
        (Text.lines (u ++ '\n' :: v)).tail = (Text.lines u).tail ++ [v] := by
      rw [Text.lines_append_newline, Text.lines_of_not_mem hv,
        List.tail_append_of_ne_nil (Text.lines_ne_nil u)]
    refine ⟨(Text.lines u).tail.filter (!isComment ·), if isComment l then none else some l,
      ?_, ?_, ?_⟩
    · rw [strayLines, htail l hl, List.filter_append]
      cases hcomment : isComment l <;> simp [hcomment]
    · rw [endsAstray, htail l hl]
      cases hcomment : isComment l <;> simp [hcomment]
    · intro b hhead hb
      have hlb : '\n' ∉ l ++ b := by simp [hl, hb]
      rw [strayLines, List.append_assoc, List.cons_append, htail _ hlb, List.filter_append]
      cases hcomment : isComment l <;> simp [isComment_append l hhead, hcomment]

/-- What is added to the last line of `path` adds no stray line. -/
lemma length_strayLines_append (path : Text) {b : Text} (hhead : b.head? ≠ some '/')
    (hb : '\n' ∉ b) : (strayLines (path ++ b)).length = (strayLines path).length := by
  obtain ⟨before, last?, hpath, -, hadded⟩ := exists_strayLines_append path
  rw [hadded b hhead hb, hpath]
  cases last? <;> simp

/-- Paths `p` and `q` have the same stray lines and both or neither end with one, if and only if the
stray lines are the same with `b` added to the paths, and with `b'`. -/
lemma strayLines_append_eq_iff (p q : Text) {b b' : Text} (hhead : b.head? ≠ some '/')
    (hb : '\n' ∉ b) (hhead' : b'.head? ≠ some '/') (hb' : '\n' ∉ b') (hne : b ≠ b') :
    strayLines (p ++ b) = strayLines (q ++ b) ∧ strayLines (p ++ b') = strayLines (q ++ b') ↔
      strayLines p = strayLines q ∧ endsAstray p = endsAstray q := by
  obtain ⟨before, last?, hp, hpe, hpb⟩ := exists_strayLines_append p
  obtain ⟨before', last?', hq, hqe, hqb⟩ := exists_strayLines_append q
  rw [hpb b hhead hb, hqb b hhead hb, hpb b' hhead' hb', hqb b' hhead' hb', hp, hq, hpe, hqe]
  -- A last stray line of only one of the paths would be a line of the other one, and the same
  -- whatever is added.
  have hends (ls : List Text) (l : Text) : ls ++ [l ++ b] ≠ ls ++ [l ++ b'] := by
    intro h
    exact hne (List.append_cancel_left (List.singleton_inj.mp (List.append_cancel_left h)))
  rcases last? with - | l <;> rcases last?' with - | l'
  · simp
  · constructor
    · rintro ⟨h, h'⟩
      exact absurd (h.symm.trans h') (hends before' l')
    · rintro ⟨-, h⟩
      cases h
  · constructor
    · rintro ⟨h, h'⟩
      exact absurd (h.trans h'.symm) (hends before l)
    · rintro ⟨-, h⟩
      cases h
  · constructor
    · rintro ⟨h, -⟩
      obtain ⟨hbefore, hlast⟩ := List.append_inj' h rfl
      have hlast := List.append_cancel_right (List.singleton_inj.mp hlast)
      exact ⟨by rw [hbefore, hlast], rfl⟩
    · rintro ⟨h, -⟩
      obtain ⟨rfl, hlast⟩ := List.append_inj' h rfl
      cases hlast
      exact ⟨rfl, rfl⟩

/-! ## The code of a stub -/

/-- A text that begins with a comment `mark` has no code but what is astray in the rest of it. -/
lemma filter_lines_comment {mark : Text} (hmark : '\n' ∉ mark) (hcomment : lit "//" <+: mark)
    (t : Text) : (Text.lines (mark ++ t)).filter (!isComment ·) = strayLines t := by
  rw [Text.lines_append_of_not_mem hmark, strayLines]
  cases hlines : Text.lines t with
  | nil => exact absurd hlines (Text.lines_ne_nil t)
  | cons l ls =>
    have hfirst : isComment (mark ++ l) = true :=
      List.isPrefixOf_iff_prefix.mpr (hcomment.trans (List.prefix_append mark l))
    simp [hfirst]

/-- What stands behind the path in the line that names it first. -/
def originSuffix : Text := lit ". DO NOT EDIT."

/-- What stands behind the path in the line that names it a second time. -/
def foundSuffix (count : Nat) : Text := lit " (" ++ Text.decimal count ++ lit ")."

lemma originSuffix_plain : originSuffix.head? = some '.' ∧ '\n' ∉ originSuffix := by decide

lemma foundSuffix_plain (count : Nat) :
    (foundSuffix count).head? = some ' ' ∧ '\n' ∉ foundSuffix count := by
  unfold foundSuffix lit
  rw [String.toList_ofList, String.toList_ofList]
  simp [Text.newline_not_mem_decimal]

lemma originSuffix_head?_ne : originSuffix.head? ≠ some '/' := by
  simp [originSuffix_plain.1]

lemma foundSuffix_head?_ne (count : Nat) : (foundSuffix count).head? ≠ some '/' := by
  simp [(foundSuffix_plain count).1]

/-- The code in the line `originLine` is what is astray in the path. -/
lemma filter_lines_originLine (source : Text) :
    (Text.lines (originLine source)).filter (!isComment ·) =
      strayLines (source ++ originSuffix) := by
  unfold originLine originSuffix
  rw [List.append_assoc]
  exact filter_lines_comment (by decide) (by decide) _

/-- The code in the line `foundLine` is what is astray in the path. -/
lemma filter_lines_foundLine (source : Text) (count : Nat) :
    (Text.lines (foundLine source count)).filter (!isComment ·) =
      strayLines (source ++ foundSuffix count) := by
  have hline : foundLine source count =
      lit "// Handlers found in " ++ (source ++ foundSuffix count) := by
    unfold foundLine foundSuffix
    rw [List.append_assoc, List.append_assoc, List.append_assoc, List.append_assoc]
  rw [hline]
  exact filter_lines_comment (by decide) (by decide) _

/-- The code of a stub: the path `source` is in it with what is astray in the two lines that name
it. -/
lemma exists_codeLines_renderStub (found : Classification) (a : Accessor) :
    ∃ middle behind : List Text, ∀ source,
      codeLines (Generator.renderStub found source a) =
        strayLines (source ++ originSuffix) ++
          (middle ++ (strayLines (source ++ foundSuffix found.handlers.length) ++ behind)) := by
  let ctx : Context := .ofClassification found [] a
  refine ⟨((preamble ctx).flatMap Text.lines).filter (!isComment ·),
    ((declarations ctx ++ found.handlers.flatMap testLines).flatMap Text.lines ++ [[]]).filter
      (!isComment ·), ?_⟩
  intro source
  have hlines : Generator.renderStub found source a = Text.unlines
      (originLine source :: (preamble ctx ++ foundLine source found.handlers.length ::
        (declarations ctx ++ found.handlers.flatMap testLines))) := by
    rw [Generator.renderStub, render_stub]
    rfl
  rw [codeLines, hlines, Text.lines_unlines, List.flatMap_cons, List.flatMap_append,
    List.flatMap_cons, List.append_assoc, List.append_assoc, List.append_assoc, List.filter_append,
    List.filter_append, List.filter_append, filter_lines_originLine, filter_lines_foundLine]

/-- Each stray line of the path `source` is two lines of code in the stub. -/
lemma exists_length_codeLines_renderStub (found : Classification) (a : Accessor) :
    ∃ n, ∀ source, (codeLines (Generator.renderStub found source a)).length =
      2 * (strayLines source).length + n := by
  obtain ⟨middle, behind, hcode⟩ := exists_codeLines_renderStub found a
  refine ⟨middle.length + behind.length, ?_⟩
  intro source
  rw [hcode source, List.length_append, List.length_append, List.length_append,
    length_strayLines_append _ originSuffix_head?_ne originSuffix_plain.2,
    length_strayLines_append _ (foundSuffix_head?_ne _) (foundSuffix_plain _).2]
  omega

/-- The paths `p` and `q` have stubs with the same code exactly if they have the same `strayLines`
and both or none of them `endsAstray`. In particular, paths without line feeds stay inside comments.
-/
theorem codeLines_renderStub_eq_iff (found : Classification) (a : Accessor) (p q : Text) :
    (codeLines (Generator.renderStub found p a) = codeLines (Generator.renderStub found q a) ↔
        strayLines p = strayLines q ∧ endsAstray p = endsAstray q) ∧
      ('\n' ∉ p → '\n' ∉ q →
        codeLines (Generator.renderStub found p a) = codeLines (Generator.renderStub found q a)) := by
  have hiff : codeLines (Generator.renderStub found p a) =
      codeLines (Generator.renderStub found q a) ↔
        strayLines p = strayLines q ∧ endsAstray p = endsAstray q := by
    have hne : originSuffix ≠ foundSuffix found.handlers.length := by
      intro h
      have hhead := originSuffix_plain.1
      rw [h, (foundSuffix_plain _).1] at hhead
      exact absurd hhead (by decide)
    obtain ⟨n, hlength⟩ := exists_length_codeLines_renderStub found a
    obtain ⟨middle, behind, hcode⟩ := exists_codeLines_renderStub found a
    rw [← strayLines_append_eq_iff p q originSuffix_head?_ne originSuffix_plain.2
      (foundSuffix_head?_ne _) (foundSuffix_plain _).2 hne]
    constructor
    · intro h
      have hcount : (strayLines p).length = (strayLines q).length := by
        have hsame := congrArg List.length h
        rw [hlength p, hlength q] at hsame
        omega
      rw [hcode p, hcode q] at h
      obtain ⟨hfirst, hothers⟩ := List.append_inj h (by
        rw [length_strayLines_append p originSuffix_head?_ne originSuffix_plain.2,
          length_strayLines_append q originSuffix_head?_ne originSuffix_plain.2, hcount])
      exact ⟨hfirst, List.append_cancel_right (List.append_cancel_left hothers)⟩
    · rintro ⟨hfirst, hsecond⟩
      rw [hcode p, hcode q, hfirst, hsecond]
  refine ⟨hiff, ?_⟩
  intro hp hq
  rw [hiff, strayLines_of_not_mem hp, strayLines_of_not_mem hq, endsAstray_of_not_mem hp,
    endsAstray_of_not_mem hq]
  exact ⟨rfl, rfl⟩

/-- A file with one handler. -/
def singleTest : Classification := ⟨lit "a", [⟨lit "F", []⟩]⟩

/-- The file name `a\nb.go` adds code to a stub that the name `b.go` does not add. -/
theorem newline_in_path_adds_code :
    codeLines (Generator.renderStub singleTest (lit "a\nb.go") .standard) ≠
      codeLines (Generator.renderStub singleTest (lit "b.go") .standard) := by
  obtain ⟨n, hlength⟩ := exists_length_codeLines_renderStub singleTest .standard
  have hstray : (strayLines (lit "a\nb.go")).length = 1 := by decide
  have hplain : (strayLines (lit "b.go")).length = 0 := by decide
  intro h
  have hsame := congrArg List.length h
  rw [hlength, hlength, hstray, hplain] at hsame
  omega

end RouteStubs.Template
