import RouteStubs.Proofs.Handler.Gist

/-!
# Nested scopes

A body can hold further scopes: blocks of branches, loops and functions, and the clauses of switches
and selects. What stands in them is out of reach for the search for route variables, at whatever
depth they hang in a statement, so two bodies that differ only inside nested scopes read the same
route variables. The scopes are emptied with `closed`; the body itself stays open in `closedBelow`.
-/

namespace RouteStubs.Syntax.Node

open RouteVariables

mutual

/-- The same tree with the parts of every scope erased, as `opensScope` tells them. -/
def closed : Node → Node
  | ⟨kind, role, span, text, children⟩ =>
    ⟨kind, role, span, text, if opensScope kind then [] else closedParts children⟩

/-- Several trees with the parts of every scope erased. -/
def closedParts : List Node → List Node
  | [] => []
  | n :: ns => closed n :: closedParts ns

end

/-- The node `n` with the parts of every scope below it erased, itself excepted. -/
def closedBelow (n : Node) : Node :=
  { n with children := closedParts n.children }

/-- Comments remain comments when scopes are `closed`. -/
@[simp] lemma isRemark_closed (n : Node) : n.closed.isRemark = n.isRemark := by
  obtain ⟨kind, role, span, text, children⟩ := n
  by_cases hk : kind = .comment
  · subst hk
    cases children <;> simp [closed, closedParts, isRemark, isComment, opensScope]
  · have hb : (kind == .comment) = false := by simpa using hk
    simp [closed, isRemark, isComment, hb]

mutual

/-- The `gist` that empties all scopes shows nothing of what is erased. -/
lemma gist_closed : ∀ n : Node, n.closed.gist opensScope = n.gist opensScope
  | ⟨kind, role, span, text, children⟩ => by
    rw [closed, gist, gist]
    cases hs : opensScope kind with
    | true => simp
    | false => simp only [Bool.false_eq_true, if_false, gistParts_closedParts _ children]

/-- The `gistParts` that empty all scopes show nothing of what is erased. -/
lemma gistParts_closedParts (keep : Bool) :
    ∀ ns : List Node, gistParts opensScope keep (closedParts ns) = gistParts opensScope keep ns
  | [] => rfl
  | n :: ns => by
    rw [closedParts, gistParts, gistParts, isRemark_closed, gist_closed n,
      gistParts_closedParts false ns]

end

end RouteStubs.Syntax.Node

namespace RouteStubs.RouteVariables

open Syntax Syntax.Node

/-- Nothing inside a nested scope has an influence: if `body` and `body'` are equal, up to
positions, once the scopes below them are erased, they read the same route variables, with the same
repetitions and in the same order. -/
theorem ofBody_eq_of_closedBelow_eq (a : Accessor) {body body' : Node}
    (h : body.closedBelow.unplaced = body'.closedBelow.unplaced) :
    ofBody a body = ofBody a body' := by
  refine ofBody_eq_of_gistParts_eq hidesScopes_opensScope a ?_
  have hparts : unplacedParts (closedParts body.children) =
      unplacedParts (closedParts body'.children) := by
    simpa [closedBelow, unplaced] using congrArg Node.children h
  calc gistParts opensScope false body.children
      = gistParts opensScope false (unplacedParts (closedParts body.children)) := by
        rw [gistParts_unplacedParts, gistParts_closedParts]
    _ = gistParts opensScope false (unplacedParts (closedParts body'.children)) := by rw [hparts]
    _ = gistParts opensScope false body'.children := by
        rw [gistParts_unplacedParts, gistParts_closedParts]

/-- The tree of a read of `key` from the map that the standard accessor returns. -/
def exampleRead (key : Text) : Node :=
  let selection : Node := .branch .selectorExpression ⟨0, 8⟩
    [(Node.leaf .identifier 0 (lit "mux")).withRole (some .operand),
      (Node.leaf .fieldIdentifier 4 (lit "Vars")).withRole (some .field)]
  let call : Node := .branch .callExpression ⟨0, 11⟩ [selection.withRole (some .function)]
  .branch .indexExpression ⟨0, 13⟩
    [call.withRole (some .operand),
      (Node.leaf .interpretedStringLiteral 12 (StringLiteral.quote key)).withRole (some .index)]

/-- The tree of a body that consists of a conditional whose header reads `id` and whose branch is
`branch`. -/
def exampleBody (branch : List Node) : Node :=
  .branch .block ⟨0, 40⟩
    [.branch .ifStatement ⟨2, 38⟩ [exampleRead (lit "id"), .branch .block ⟨20, 38⟩ branch]]

/-- A read in a branch is as good as an empty branch, and the header is searched all the same. -/
theorem ofBody_read_in_branch :
    (exampleBody [exampleRead (lit "name")]).closedBelow.unplaced =
        (exampleBody []).closedBelow.unplaced ∧
      ofBody .standard (exampleBody [exampleRead (lit "name")]) = [lit "id"] := by
  have hclosed : (exampleBody [exampleRead (lit "name")]).closedBelow.unplaced =
      (exampleBody []).closedBelow.unplaced := rfl
  refine ⟨hclosed, ?_⟩
  rw [ofBody_eq_of_closedBelow_eq .standard hclosed]
  decide +kernel

end RouteStubs.RouteVariables
