import RouteStubs.Proofs.Syntax.Operands
import RouteStubs.Syntax.Statements

/-!
# Readings of statements and blocks

How assignments, and blocks with a statement on each line, are read. A statement that begins with a
word is tried as a statement with a word of its own, then as a label, and only then as a simple one.
-/

namespace RouteStubs.Syntax.Statements

open RouteStubs.Syntax.Parser Token Node Expressions

variable {phrase : Phrases} {t u rest : Text} {m : Node}

/-- The tree of an assignment of the value `right` to `left`. -/
def assignmentTree (left right : Node) : Node :=
  .branch .assignmentStatement ⟨0, 0⟩
    [(Node.branch .expressionList ⟨0, 0⟩ [left]).withRole (some .left),
      (Node.branch .expressionList ⟨0, 0⟩ [right.withRole none]).withRole (some .right)]

/-! ## Simple statements -/

/-- A single expression at the end of its line is an `expressionList` by itself. -/
lemma reads_expressionList {p : Place} (hp : p.spacing = .sameLine)
    (h : Reads (phrase (.expression p)) u ('\n' :: rest) (Alike m)) (ht : Meets .free u u) :
    Reads (expressionList phrase p) u ('\n' :: rest)
      (Alike (.branch .expressionList ⟨0, 0⟩ [m.withRole none])) := by
  have hcomma : Fails (mark p.spacing ",") ('\n' :: rest) := by
    rw [hp]
    exact fails_spaced_newline _ rest
  exact ((h.part ht none).append (hcomma.append _).repeats.many).construct .expressionList

/-- The mark of an assignment and the value `m` behind it are read by `assigned`. -/
lemma reads_assigned
    (h : Reads (phrase (.expression .atEnd)) u ('\n' :: rest) (Alike m)) (hu : Meets .free u u) :
    Reads (assigned phrase .statement .sameLine) (' ' :: '=' :: ' ' :: u) ('\n' :: rest) fun a =>
      a.1 = .assignmentStatement ∧
        AlikeParts [(Node.branch .expressionList ⟨0, 0⟩ [m.withRole none]).withRole (some .right)]
          a.2 := by
  intro o
  obtain ⟨o₁, hgap, ho₁⟩ :=
    ((meets_cons (s := .sameLine) (c := '=') (by decide) (' ' :: u)).blank (b := ' ')
      (by decide)).clear o
  have hmark : assignmentMark ('=' :: ' ' :: u) = some "=" := by
    simp [assignmentMark, begins, assignmentMarks, List.isPrefixOf]
  have hdefinition : begins ":=" ('=' :: ' ' :: u) = false := by
    simp [begins, List.isPrefixOf]
  obtain ⟨ns, o₂, heq, ho₂, hns⟩ :=
    ((reads_expressionList rfl h hu).part (hu.blank (b := ' ') (by decide)) (some .right)) (o₁ + 1)
  refine ⟨(.assignmentStatement, ns), o₂, ?_, ?_, rfl, hns⟩
  · simp [assigned, hgap, hmark, hdefinition, Setting.statement, Cursor.past, heq]
  · rw [ho₂]
    simp only [List.length_cons] at ho₁ ⊢
    omega

/-- Behind the target `left` of an assignment stands neither a step, nor a send, nor another target.
-/
lemma reads_simpleTail {left : Node}
    (h : Reads (phrase (.expression .atEnd)) u ('\n' :: rest) (Alike m)) (hu : Meets .free u u)
    {n : Node} (hn : Alike left n) :
    Reads (simpleTail phrase .statement n) (' ' :: '=' :: ' ' :: u) ('\n' :: rest) fun a =>
      a.1 = .assignmentStatement ∧ AlikeParts (assignmentTree left m).children a.2 := by
  have hmeets : Meets .sameLine (' ' :: '=' :: ' ' :: u) ('=' :: ' ' :: u) :=
    (meets_cons (by decide) _).blank (by decide)
  have hincrement := fails_mark (m := "++") (by decide) hmeets
  have hdecrement := fails_mark (m := "--") (by decide) hmeets
  have hsend := fails_mark (m := "<-") (by decide) hmeets
  have hcomma := fails_mark (m := ",") (by decide) hmeets
  have htargets : Fails (otherTargets phrase .statement) (' ' :: '=' :: ' ' :: u) :=
    (hcomma.append _).append _
  have hleft : Alike ((Node.branch .expressionList ⟨0, 0⟩ [left]).withRole (some .left))
      ((Node.branch .expressionList ⟨n.span.start, n.span.stop⟩ [n]).withRole (some .left)) :=
    (hn.parts.branch _ _ _).withRole _
  refine Reads.orElse_right (Reads.orElse_right (Reads.orElse_right (Reads.orElse_right
    (Reads.orElse_left ?_ _) fun o => ?_) ?_) ?_) ?_
  · refine (reads_assigned h hu).andThen fun a ha => reads_done ⟨ha.1, ?_⟩ _
    exact hleft.cons ha.2
  · simp [htargets o]
  · exact (hsend.append _).andThen _
  · exact hdecrement.andThen _
  · exact hincrement.andThen _

/-- An assignment of one value is read by `simple` as an `assignmentTree`. -/
lemma reads_simple {left right : Node}
    (hleft : Reads (phrase (.expression Place.atEnd.opening)) t (' ' :: '=' :: ' ' :: u)
      (Alike left))
    (hright : Reads (phrase (.expression .atEnd)) u ('\n' :: rest) (Alike right))
    (hu : Meets .free u u) :
    Reads (simple phrase .statement) t ('\n' :: rest) (Alike (assignmentTree left right)) := by
  intro o
  obtain ⟨n, o₁, heq₁, ho₁, hn⟩ := hleft o
  obtain ⟨⟨kind, ns⟩, o₂, heq₂, ho₂, rfl, hns⟩ := reads_simpleTail hright hu hn o₁
  refine ⟨.branch .assignmentStatement ⟨o, o₂⟩ ns, o₂, ?_, ho₂.trans ho₁, hns.branch _ _ _⟩
  have hfirst : phrase (.expression Setting.statement.first) ⟨o, t⟩ =
      [⟨n, 0, ⟨o₁, ' ' :: '=' :: ' ' :: u⟩⟩] := heq₁
  simp [simple, hfirst, heq₂]

/-- Without an expression there is no `simple` statement. -/
lemma fails_simple (h : Fails (phrase (.expression Place.atEnd.opening)) t) :
    Fails (simple phrase .statement) t := by
  intro o
  have hfirst : phrase (.expression Setting.statement.first) ⟨o, t⟩ = [] := h o
  simp [simple, hfirst]

/-! ## Statements -/

/-- A word `w` that begins no statements of its own has no `wordStatement`. -/
lemma wordStatement_eq_none {w : Text} (h : (statementWords.any fun k => w = k.toList) = false) :
    wordStatement phrase w = none := by
  simp only [statementWords, List.any_cons, List.any_nil, Bool.or_false, Bool.or_eq_false_iff,
    decide_eq_false_iff_not, eq_comm (a := w)] at h
  simp only [wordStatement, List.find?_cons, h, decide_false, List.find?_nil, Option.map_none]

/-- A statement that begins with a word `w` which neither begins statements of its own nor clauses,
and is no label, is `simple`. -/
lemma statement_eq_simple {position : Position} {w : Text} (hw : IsWord w) (ht : Stops t)
    (hstatement : (statementWords.any fun k => w = k.toList) = false)
    (hclause : (clauseWords.any fun k => w = k.toList) = false)
    (hlabel : Fails (label position) (w ++ t)) (o : Nat) :
    statement phrase position ⟨o, w ++ t⟩ = simple phrase .statement ⟨o, w ++ t⟩ := by
  have hword := word_append hw ht
  have hnone : wordStatement phrase w = none := wordStatement_eq_none hstatement
  have hclause' : (position.clauseWords.any fun k => w = k.toList) = false := by
    cases position
    · rfl
    · rfl
    · exact hclause
  have hempty := hlabel o
  obtain ⟨c, cs, rfl, hc, -⟩ := hw.exists_cons
  rw [List.cons_append] at hword hempty ⊢
  unfold statement
  split
  case h_3 => simp only [hword, hclause', hnone, hempty, Bool.false_eq_true, if_false,
    List.isEmpty_nil, if_true]
  all_goals
    next heq =>
    cases heq
    exact absurd hc (by decide)

/-- What `simple` reads is a statement. -/
lemma reads_statement {position : Position} {w : Text}
    (h : Reads (simple phrase .statement) (w ++ t) rest (Alike m)) (hw : IsWord w) (ht : Stops t)
    (hstatement : (statementWords.any fun k => w = k.toList) = false)
    (hclause : (clauseWords.any fun k => w = k.toList) = false)
    (hlabel : Fails (label position) (w ++ t)) :
    Reads (statement phrase position) (w ++ t) rest (Alike m) := by
  intro o
  rw [statement_eq_simple hw ht hstatement hclause hlabel]
  exact h o

/-- A word `w` in front of something other than a colon is no label. -/
lemma fails_label {w : Text} (hw : IsWord w) (ht : Stops t) (position : Position)
    (hk : ((expressionWords ++ statementWords ++ position.clauseWords).any fun k =>
      w = k.toList) = false)
    (hcolon : Fails (mark .sameLine ":") t) : Fails (label position) (w ++ t) :=
  ((reads_name hw ht .labelName hk).part (meets_word hw _) none).append_fails hcolon

/-- No statement begins where there is neither a word nor an expression. -/
lemma fails_statement {position : Position} (hword : word t = none)
    (ht : ∀ c ∈ t.head?, c ∉ ['\x7b', ';'])
    (h : Fails (phrase (.expression Place.atEnd.opening)) t) :
    Fails (statement phrase position) t := by
  intro o
  unfold statement
  split
  case h_3 => simp only [hword, fails_simple h o]
  all_goals
    next heq => simp_all

/-- No statement begins with the word `func` in front of another word. -/
lemma fails_statement_func {position : Position} {w : Text}
    (h : Fails (phrase (.expression Place.atEnd.opening)) (lit "func" ++ ' ' :: (w ++ t))) :
    Fails (statement phrase position) (lit "func" ++ ' ' :: (w ++ t)) := by
  have hfunc : IsWord (lit "func") := by decide
  have hstops : Stops (' ' :: (w ++ t)) := stops_cons (by decide) _
  have hname : Fails (name .labelName (expressionWords ++ statementWords ++ position.clauseWords))
      (lit "func" ++ ' ' :: (w ++ t)) := by
    refine fails_name_of_keyword hfunc hstops _ ?_
    rw [List.any_append, List.any_append, Bool.or_assoc]
    exact Bool.or_eq_true_iff.mpr (.inl (by decide))
  have hlabel : Fails (label position) (lit "func" ++ ' ' :: (w ++ t)) :=
    (hname.part (meets_word hfunc _) none).append _
  intro o
  rw [statement_eq_simple hfunc hstops (by decide) (by decide) hlabel]
  exact fails_simple h o

/-! ## Blocks -/

/-- No label stands in front of a closing brace. -/
lemma fails_emptyLabel (position : Position) (h : Meets .free t ('\x7d' :: rest)) :
    Fails (emptyLabel position) t := by
  have hname : Fails (name .labelName
      (expressionWords ++ statementWords ++ position.clauseWords)) ('\x7d' :: rest) :=
    fails_name (word_cons_eq_none (by decide) rest) _ _
  have hmeets : Meets .free ('\x7d' :: rest) ('\x7d' :: rest) := meets_cons (by decide) rest
  exact (((hname.part hmeets none).append _).construct _).part h none

/-- What follows a statement on the next line: a terminator and one more statement. -/
abbrev further (phrase : Phrases) : Parts :=
  terminator ++ part .free none (phrase (.statement .later))

/-- A `block` without statements. -/
lemma reads_block_nil (h : Meets .free t ('\x7d' :: rest))
    (hstatement : Fails (phrase (.statement .first)) ('\x7d' :: rest)) :
    Reads (block phrase) ('\x7b' :: t) rest (Alike (.branch .block ⟨0, 0⟩ [])) := by
  have hopen : Reads (mark .free "\x7b") ('\x7b' :: t) t (AlikeParts []) :=
    reads_mark_cons (by decide) rfl (by decide) t
  have hclose : Reads (mark .free "\x7d") t rest (AlikeParts []) := reads_mark h rfl (by decide)
  have hchains : Fails (statementChains phrase .first) t := by
    intro o
    simp [statementChains, (hstatement.part h none).heaviest o, Reading.heaviest]
  have hnone : Reads (statements phrase .first) t t (AlikeParts []) :=
    ((hchains.append _).orElse (fails_emptyLabel .first h)).optional
  exact (((hopen.append hnone).append hclose).construct .block).heaviest

/-- A `block` with statements, each on its line. -/
lemma reads_block_cons {ms : List Node} (ht : Meets .free t u)
    (hfirst : Reads (phrase (.statement .first)) u v (Alike m)) (hlength : v.length ≤ t.length)
    (hothers : Repeats (further phrase) v ('\n' :: '\x7d' :: rest) (AlikeParts ms)) :
    Reads (block phrase) ('\x7b' :: t) rest
      (Alike (.branch .block ⟨0, 0⟩ (m.withRole none :: ms))) := by
  have hopen : Reads (mark .free "\x7b") ('\x7b' :: t) t (AlikeParts []) :=
    reads_mark_cons (by decide) rfl (by decide) t
  have hclose : Reads (mark .free "\x7d") ('\x7d' :: rest) rest (AlikeParts []) :=
    reads_mark_cons (by decide) rfl (by decide) rest
  have hchains : Reads (statementChains phrase .first) t ('\n' :: '\x7d' :: rest)
      (AlikeParts (m.withRole none :: ms)) := by
    intro o
    obtain ⟨ns, o₁, heq₁, ho₁, hns⟩ := (hfirst.part ht none).heaviest o
    obtain ⟨ks, o₂, heq₂, ho₂, hks⟩ := hothers t ns 0 o₁ hlength
    exact ⟨ns ++ ks, o₂, by simp only [statementChains, heq₁, heq₂], ho₂.trans ho₁,
      hns.append hks⟩
  have hend : Reads (optional (terminator ++ optional (emptyLabel .later)))
      ('\n' :: '\x7d' :: rest) ('\x7d' :: rest) (AlikeParts []) :=
    ((reads_terminator _).append
      (fails_emptyLabel .later (meets_cons (by decide) rest)).optional).optional
  have hstatements : Reads (statements phrase .first) t ('\x7d' :: rest) _ :=
    ((hchains.append hend).orElse_left _).optional
  rw [List.append_nil] at hstatements
  have hparts := (hopen.append hstatements).append hclose
  rw [List.append_nil] at hparts
  exact (hparts.construct .block).heaviest

end RouteStubs.Syntax.Statements
