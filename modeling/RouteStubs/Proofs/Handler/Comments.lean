import RouteStubs.Proofs.Handler.Gist

/-!
# Comments

Comments may stand between any two tokens of a text, and each of them is a part of the node it
stands in. `Node.commented` tells whether one tree is another with comments put in. It is told at
which kinds of nodes a comment may come before the first part; everywhere else in a node a comment
may always be put in.

A comment is harmless wherever a part is chosen by its role or its kind. The exceptions are the two
places where the first part is taken as it comes: behind the star of a pointer type and inside
parentheses. The main result says that these are the only exceptions: leaving them out, comments
never change a classification, and allowing either of them, they sometimes do.
-/

namespace RouteStubs.Syntax

/-- The kinds of nodes that are single tokens, in which no comment can stand. -/
def Kind.isToken : Kind → Bool
  | .identifier | .typeIdentifier | .fieldIdentifier | .packageIdentifier | .labelName
  | .blankIdentifier | .rawStringLiteral | .interpretedStringLiteral | .intLiteral | .floatLiteral
  | .imaginaryLiteral | .runeLiteral | .nilLiteral | .trueLiteral | .falseLiteral | .iotaLiteral
  | .comment => true
  | _ => false

namespace Node

mutual

/-- The second tree is the first with comments put in, and perhaps other positions. Before the first
part of a node a comment may come only if the kind of the node is in `fronts`. -/
def commented (fronts : Kind → Bool) : Node → Node → Bool
  | ⟨kind, role, _, text, children⟩, ⟨kind', role', _, text', children'⟩ =>
    kind == kind' && role == role' && text == text' && (!kind.isToken || children'.isEmpty) &&
      commentedParts fronts (fronts kind) children children'

/-- The second list is the first with comments put in, in the parts and between them, where `front`
says whether a comment may come first. -/
def commentedParts (fronts : Kind → Bool) (front : Bool) : List Node → List Node → Bool
  | [], [] => true
  | [], d :: ds => front && d.isRemark && commentedParts fronts true [] ds
  | _ :: _, [] => false
  | c :: cs, d :: ds =>
    (commented fronts c d && commentedParts fronts true cs ds) ||
      (front && d.isRemark && commentedParts fronts true (c :: cs) ds)

end

/-- Trees `n` and `m` that differ by comments are both comments, or none of them is. -/
lemma isRemark_of_commented {fronts : Kind → Bool} {n m : Node}
    (h : n.commented fronts m = true) : n.isRemark = m.isRemark := by
  obtain ⟨kind, role, span, text, children⟩ := n
  obtain ⟨kind', role', span', text', children'⟩ := m
  simp only [commented, Bool.and_eq_true, beq_iff_eq, Bool.or_eq_true, Bool.not_eq_true',
    List.isEmpty_iff] at h
  obtain ⟨⟨⟨⟨rfl, rfl⟩, rfl⟩, htoken⟩, hparts⟩ := h
  by_cases hk : kind = .comment
  · subst hk
    -- No comment stands in a comment, so neither of the two has parts.
    have hempty : children' = [] := htoken.resolve_left (by simp [Kind.isToken])
    subst hempty
    cases children with
    | nil => rfl
    | cons c cs => simp [commentedParts] at hparts
  · have hb : (kind == .comment) = false := by simpa using hk
    simp [isRemark, isComment, hb]

mutual

/-- Putting comments in leaves the `gist` as it is, unless one comes first where the first part
counts. -/
lemma gist_eq_of_commented {fronts : Kind → Bool}
    (hf : ∀ kind, firstCounts kind = true → fronts kind = false) :
    ∀ n m : Node, n.commented fronts m = true → n.gist hideNothing = m.gist hideNothing
  | ⟨kind, role, _, text, children⟩, ⟨kind', role', _, text', children'⟩, h => by
    simp only [commented, Bool.and_eq_true, beq_iff_eq] at h
    obtain ⟨⟨⟨⟨rfl, rfl⟩, rfl⟩, -⟩, hparts⟩ := h
    simp only [gist, hideNothing_eq, Bool.false_eq_true, if_false]
    rw [gistParts_eq_of_commentedParts hf _ _ children children' (hf kind) hparts]

/-- The same for the parts `cs` of a node. The induction is on the list `ds` with the comments put
in. -/
lemma gistParts_eq_of_commentedParts {fronts : Kind → Bool}
    (hf : ∀ kind, firstCounts kind = true → fronts kind = false) (front keep : Bool) :
    ∀ cs ds : List Node, (keep = true → front = false) →
      commentedParts fronts front cs ds = true →
        gistParts hideNothing keep cs = gistParts hideNothing keep ds
  | [], [], _, _ => rfl
  | [], d :: ds, hkeep, h => by
    simp only [commentedParts, Bool.and_eq_true] at h
    obtain ⟨⟨rfl, hd⟩, hds⟩ := h
    have hk : keep = false := by simpa using hkeep
    rw [gistParts_eq_of_commentedParts hf true keep [] ds hkeep hds]
    simp [gistParts, hk, hd]
  | c :: cs, [], _, h => by simp [commentedParts] at h
  | c :: cs, d :: ds, hkeep, h => by
    simp only [commentedParts, Bool.or_eq_true, Bool.and_eq_true] at h
    rcases h with ⟨hcd, hrest⟩ | ⟨⟨rfl, hd⟩, hds⟩
    · rw [gistParts, gistParts, isRemark_of_commented hcd, gist_eq_of_commented hf c d hcd,
        gistParts_eq_of_commentedParts hf true false cs ds (by simp) hrest]
    · have hk : keep = false := by simpa using hkeep
      rw [gistParts_eq_of_commentedParts hf true keep (c :: cs) ds hkeep hds]
      simp [gistParts, hk, hd]

end

mutual

/-- Where `fronts'` allows what `fronts` allows, a tree with comments put in still is one. -/
lemma commented_mono {fronts fronts' : Kind → Bool}
    (hle : ∀ kind, fronts kind = true → fronts' kind = true) :
    ∀ n m : Node, n.commented fronts m = true → n.commented fronts' m = true
  | ⟨kind, role, _, text, children⟩, ⟨kind', role', _, text', children'⟩, h => by
    simp only [commented, Bool.and_eq_true] at h ⊢
    exact ⟨h.1, commentedParts_mono hle _ _ (hle kind) children children' h.2⟩

/-- The same for the parts `cs` of a node. -/
lemma commentedParts_mono {fronts fronts' : Kind → Bool}
    (hle : ∀ kind, fronts kind = true → fronts' kind = true) (front front' : Bool)
    (hfront : front = true → front' = true) :
    ∀ cs ds : List Node, commentedParts fronts front cs ds = true →
      commentedParts fronts' front' cs ds = true
  | [], [], _ => rfl
  | [], d :: ds, h => by
    simp only [commentedParts, Bool.and_eq_true] at h ⊢
    exact ⟨⟨hfront h.1.1, h.1.2⟩, commentedParts_mono hle true true id [] ds h.2⟩
  | c :: cs, [], h => by simp [commentedParts] at h
  | c :: cs, d :: ds, h => by
    simp only [commentedParts, Bool.or_eq_true, Bool.and_eq_true] at h ⊢
    rcases h with ⟨hcd, hrest⟩ | ⟨⟨hf, hd⟩, hds⟩
    · exact .inl ⟨commented_mono hle c d hcd, commentedParts_mono hle true true id cs ds hrest⟩
    · exact .inr ⟨⟨hfront hf, hd⟩, commentedParts_mono hle true true id (c :: cs) ds hds⟩

end

end Node

end RouteStubs.Syntax

namespace RouteStubs.Classification

open Syntax Syntax.Node

/-- Comments that never come first where the first part counts leave the package and `ofFile` as
they are. -/
lemma ofFile_eq_of_commented (a : Accessor) {fronts : Kind → Bool}
    (hf : ∀ kind, firstCounts kind = true → fronts kind = false) {f : SourceFile} {root : Node}
    (h : f.root.commented fronts root = true) :
    SourceFile.packageName? root = SourceFile.packageName? f.root ∧
      ofFile a ⟨root, f.package⟩ = ofFile a f := by
  have hgist : f.root.gist hideNothing = root.gist hideNothing := gist_eq_of_commented hf _ _ h
  constructor
  · rw [← SourceFile.packageName?_gist, ← hgist, SourceFile.packageName?_gist]
  · have hkind : f.root.kind = root.kind := by simpa using congrArg Node.kind hgist
    have hparts := congrArg Node.children hgist
    rw [gist_children rfl, gist_children rfl, hkind] at hparts
    rw [ofFile_eq, ofFile_eq, ← handlersAmong_gistParts a _ f.root.children, hparts,
      handlersAmong_gistParts]

/-- Both texts `t` and `t'` are source files, the tree of the second is that of the first with
comments put in, and they are classified as `c` and `c'`. -/
def commentedSources (fronts : Kind → Bool) (t t' : Text) (c c' : Classification) : Bool :=
  match SourceFile.parse t, SourceFile.parse t' with
  | .ok f, .ok g =>
    f.root.commented fronts g.root && decide (ofFile .standard f = c) &&
      decide (ofFile .standard g = c')
  | _, _ => false

/-- If `commentedSources` holds, the two texts have trees `f` and `g` of which it says so. -/
lemma exists_of_commentedSources {fronts : Kind → Bool} {t t' : Text} {c c' : Classification}
    (h : commentedSources fronts t t' c c' = true) :
    ∃ f g, SourceFile.parse t = .ok f ∧ SourceFile.parse t' = .ok g ∧
      f.root.commented fronts g.root = true ∧ ofFile .standard f = c ∧
        ofFile .standard g = c' := by
  unfold commentedSources at h
  split at h
  · next f g hf hg =>
    simp only [Bool.and_eq_true, decide_eq_true_eq] at h
    exact ⟨f, g, hf, hg, h.1.1, h.1.2, h.2⟩
  · simp at h

/-- A comment behind the star of the request's type hides a handler. -/
lemma commentedSources_star :
    commentedSources (· == .pointerType) (lit "package a;func F(x.ResponseWriter,*http.Request)\n")
      (lit "package a;func F(x.ResponseWriter,*/**/http.Request)\n") ⟨lit "a", [⟨lit "F", []⟩]⟩
      ⟨lit "a", []⟩ = true := by
  decide +kernel

/-- A comment after an opening parenthesis hides a read. -/
lemma commentedSources_parenthesis :
    commentedSources (· == .parenthesizedExpression)
      (lit "package a;func F(x.ResponseWriter,*http.Request)\x7b(mux.Vars())[\"\"]\x7d\n")
      (lit "package a;func F(x.ResponseWriter,*http.Request)\x7b(/**/mux.Vars())[\"\"]\x7d\n")
      ⟨lit "a", [⟨lit "F", [[]]⟩]⟩ ⟨lit "a", [⟨lit "F", []⟩]⟩ = true := by
  decide +kernel

/-- If two trees that differ by comments at a `place` that `fronts` allows are classified
differently, then comments are not harmless. -/
lemma not_harmless_of_commentedSources {fronts place : Kind → Bool}
    (hle : ∀ kind, place kind = true → fronts kind = true) {t t' : Text} {c c' : Classification}
    (h : commentedSources place t t' c c' = true) (hne : c.handlers ≠ c'.handlers) :
    ¬ ∀ (a : Accessor) (f : SourceFile) (root : Node),
      SourceFile.packageName? f.root = some f.package → f.root.commented fronts root = true →
        SourceFile.packageName? root = some f.package ∧
          ofFile a ⟨root, f.package⟩ = ofFile a f := by
  intro hall
  obtain ⟨f, g, hf, -, hfg, hc, hc'⟩ := exists_of_commentedSources h
  obtain ⟨-, hsame⟩ := hall .standard f g.root (SourceFile.packageName?_of_parse hf)
    (commented_mono hle _ _ hfg)
  have hhandlers := congrArg Classification.handlers hsame
  change (ofFile .standard g).handlers = (ofFile .standard f).handlers at hhandlers
  rw [hc, hc'] at hhandlers
  exact hne hhandlers.symm

/-- Comments are harmless exactly as long as `fronts` allows none before the first part of a pointer
type or of an expression in parentheses: then every file keeps its package, its handlers, their
order and their route variables, for every accessor. -/
theorem comments_harmless_iff (fronts : Kind → Bool) :
    (∀ (a : Accessor) (f : SourceFile) (root : Node),
        SourceFile.packageName? f.root = some f.package → f.root.commented fronts root = true →
          SourceFile.packageName? root = some f.package ∧
            ofFile a ⟨root, f.package⟩ = ofFile a f) ↔
      fronts .pointerType = false ∧ fronts .parenthesizedExpression = false := by
  constructor
  · intro hall
    rw [← Bool.not_eq_true, ← Bool.not_eq_true]
    constructor <;> intro hfront
    · refine not_harmless_of_commentedSources (fun kind hk => ?_) commentedSources_star (by decide)
        hall
      rwa [eq_of_beq hk]
    · refine not_harmless_of_commentedSources (fun kind hk => ?_) commentedSources_parenthesis
        (by decide) hall
      rwa [eq_of_beq hk]
  · rintro ⟨hstar, hparenthesis⟩ a f root hpackage hroot
    have hf : ∀ kind, firstCounts kind = true → fronts kind = false := by
      intro kind hk
      unfold firstCounts at hk
      split at hk
      · exact hstar
      · exact hparenthesis
      · simp at hk
    obtain ⟨hname, hsame⟩ := ofFile_eq_of_commented a hf hroot
    exact ⟨hname.trans hpackage, hsame⟩

/-- Comments in arbitrary places are not harmless: a comment between the star and the type of the
request makes a handler disappear. -/
theorem comment_behind_star_hides_handler :
    ∃ f g,
      SourceFile.parse (lit "package a;func F(x.ResponseWriter,*http.Request)\n") = .ok f ∧
      SourceFile.parse (lit "package a;func F(x.ResponseWriter,*/**/http.Request)\n") = .ok g ∧
      f.root.commented (fun _ => true) g.root = true ∧
      ofFile .standard f = ⟨lit "a", [⟨lit "F", []⟩]⟩ ∧ ofFile .standard g = ⟨lit "a", []⟩ := by
  obtain ⟨f, g, hf, hg, hfg, hc, hc'⟩ := exists_of_commentedSources commentedSources_star
  exact ⟨f, g, hf, hg, commented_mono (fun _ _ => rfl) _ _ hfg, hc, hc'⟩

end RouteStubs.Classification
