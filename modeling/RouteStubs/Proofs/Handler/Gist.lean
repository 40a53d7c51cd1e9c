import Mathlib.Data.List.Basic
import RouteStubs.Handler.Classify
import RouteStubs.Proofs.Syntax.Positions

/-!
# The gist of a syntax tree

The classification of a file looks at a syntax tree in a few fixed ways: it asks for the first part
in a role, it picks parts by their kind, and twice it takes the first part there is, inside
parentheses and behind the star of a pointer type. The *gist* of a tree is what can be seen in these
ways. Positions are forgotten, comments are dropped unless they stand where the first part counts,
and the nodes of some chosen kinds are emptied.

Every function of the classification is shown to give the same answer for a tree and for its gist,
as long as only nodes that open a scope are emptied. What a change of a tree can do to the
classification is then a question about gists alone.
-/

namespace RouteStubs.Syntax.Node

/-- The node `n` is a comment that plays no role and has no parts, as every comment of a parsed
text. -/
def isRemark (n : Node) : Bool :=
  n.isComment && n.role.isNone && n.children.isEmpty

/-- The kinds of nodes of which the first part is taken, whatever it is: for these `gist` keeps a
comment that comes first. -/
def firstCounts : Kind → Bool
  | .pointerType | .parenthesizedExpression => true
  | _ => false

mutual

/-- The gist of a node, where nodes of the kinds in `hide` are emptied. -/
def gist (hide : Kind → Bool) : Node → Node
  | ⟨kind, role, _, text, children⟩ =>
    ⟨kind, role, ⟨0, 0⟩, text, if hide kind then [] else gistParts hide (firstCounts kind) children⟩

/-- The gists of several parts without the comments among them, where `keep` says that the first
part is kept even if it is a comment. -/
def gistParts (hide : Kind → Bool) (keep : Bool) : List Node → List Node
  | [] => []
  | n :: ns =>
    if !keep && n.isRemark then gistParts hide false ns
    else gist hide n :: gistParts hide false ns

end

/-- Nothing is emptied. -/
def hideNothing : Kind → Bool := fun _ => false

@[simp] lemma hideNothing_eq (kind : Kind) : hideNothing kind = false := rfl

variable {hide : Kind → Bool}

@[simp] lemma gist_kind (n : Node) : (n.gist hide).kind = n.kind := by
  cases n; rfl

@[simp] lemma gist_role (n : Node) : (n.gist hide).role = n.role := by
  cases n; rfl

@[simp] lemma gist_text (n : Node) : (n.gist hide).text = n.text := by
  cases n; rfl

@[simp] lemma isComment_gist (n : Node) : (n.gist hide).isComment = n.isComment := by
  simp [isComment]

/-- A node that is not emptied has `gistParts` of its parts for its parts. -/
lemma gist_children {n : Node} (h : hide n.kind = false) :
    (n.gist hide).children = gistParts hide (firstCounts n.kind) n.children := by
  cases n
  simp_all [gist]

/-- Comments have their own kind and no role. -/
lemma isRemark_iff (n : Node) :
    n.isRemark = true ↔ n.kind = .comment ∧ n.role = none ∧ n.children = [] := by
  simp [isRemark, isComment, and_assoc]

/-- Whatever `f` gathers from parts one by one, and not from comments, it gathers from the gists of
the parts. -/
lemma flatMap_gistParts {β : Type} {f : Node → List β}
    (hr : ∀ n : Node, n.isRemark = true → f (n.gist hide) = []) (keep : Bool) (ns : List Node) :
    (gistParts hide keep ns).flatMap f = ns.flatMap fun n => f (n.gist hide) := by
  induction ns generalizing keep with
  | nil => rfl
  | cons n ns ih =>
    rw [gistParts, List.flatMap_cons, ← ih false]
    split
    · next h => rw [hr n (by simp_all), List.nil_append]
    · rw [List.flatMap_cons]

/-- A selection `p` of parts that passes over comments and asks only for what the gist keeps selects
the same parts. -/
lemma filter_gistParts {p : Node → Bool} (hp : ∀ n, p (n.gist hide) = p n)
    (hr : ∀ n, n.isRemark = true → p n = false) (keep : Bool) (ns : List Node) :
    (gistParts hide keep ns).filter p = (ns.filter p).map (gist hide) := by
  have hfilter (ms : List Node) : ms.filter p = ms.flatMap fun n => if p n then [n] else [] := by
    induction ms with
    | nil => rfl
    | cons m ms ih => cases hm : p m <;> simp [hm, ih]
  rw [hfilter, hfilter, flatMap_gistParts (fun n hn => by simp [hp, hr n hn]), List.map_flatMap]
  refine congrArg (List.flatMap · ns) (funext fun n => ?_)
  cases hn : p n <;> simp [hp, hn]

/-- The parts of `n` in the given `role`, in the gist. -/
lemma childrenWith_gist {n : Node} (h : hide n.kind = false) (role : Role) :
    (n.gist hide).childrenWith role = (n.childrenWith role).map (gist hide) := by
  unfold childrenWith
  rw [gist_children h]
  refine filter_gistParts (fun m => by simp) (fun m hm => ?_) _ _
  simp [((isRemark_iff m).mp hm).2.1]

/-- The first part in a `role` is the first of those in the role. -/
lemma child?_eq_head? (n : Node) (role : Role) : n.child? role = (n.childrenWith role).head? := by
  simp [child?, childrenWith]

/-- The first part of `n` in the given `role`, in the gist. -/
lemma child?_gist {n : Node} (h : hide n.kind = false) (role : Role) :
    (n.gist hide).child? role = (n.child? role).map (gist hide) := by
  rw [child?_eq_head?, child?_eq_head?, childrenWith_gist h, List.head?_map]

/-- Where the first part counts, the gist of `n` has the same first part. -/
lemma head?_gist {n : Node} (h : hide n.kind = false) (hf : firstCounts n.kind = true) :
    (n.gist hide).children.head? = n.children.head?.map (gist hide) := by
  rw [gist_children h, hf]
  cases n.children with
  | nil => rfl
  | cons m ms => simp [gistParts]

/-! ## Positions -/

/-- Comments remain comments when `unplaced` takes off their positions. -/
@[simp] lemma isRemark_unplaced (n : Node) : n.unplaced.isRemark = n.isRemark := by
  obtain ⟨kind, role, span, text, children⟩ := n
  cases children <;> simp [unplaced, unplacedParts, isRemark, isComment]

mutual

/-- The `gist` does not depend on positions. -/
lemma gist_unplaced (hide : Kind → Bool) : ∀ n : Node, n.unplaced.gist hide = n.gist hide
  | ⟨kind, role, span, text, children⟩ => by
    rw [unplaced, gist, gist, gistParts_unplacedParts]

/-- The `gistParts` do not depend on positions. -/
lemma gistParts_unplacedParts (hide : Kind → Bool) (keep : Bool) :
    ∀ ns : List Node, gistParts hide keep (unplacedParts ns) = gistParts hide keep ns
  | [] => rfl
  | n :: ns => by
    rw [unplacedParts, gistParts, gistParts, isRemark_unplaced, gist_unplaced hide n,
      gistParts_unplacedParts hide false ns]

end

end RouteStubs.Syntax.Node

namespace RouteStubs.RouteVariables

open Syntax Syntax.Node

/-- Only nodes that open a scope are emptied by `hide`. -/
def HidesScopes (hide : Kind → Bool) : Prop :=
  ∀ kind, hide kind = true → opensScope kind = true

/-- Where nothing is emptied, only scopes are. -/
lemma hidesScopes_hideNothing : HidesScopes hideNothing := by
  intro kind h
  simp [hideNothing] at h

/-- Everything that opens a scope is emptied. -/
lemma hidesScopes_opensScope : HidesScopes opensScope := fun _ h => h

/-- A node that opens no scope is not emptied. -/
lemma HidesScopes.eq_false {hide : Kind → Bool} (hh : HidesScopes hide) {kind : Kind}
    (hk : opensScope kind = false) : hide kind = false := by
  cases h : hide kind with
  | false => rfl
  | true => exact absurd (hh kind h) (by simp [hk])

/-- Only parentheses are taken off by `bare`. -/
lemma bare_of_kind_ne {n : Node} (h : n.kind ≠ .parenthesizedExpression) : bare n = n := by
  cases n
  rw [bare.eq_def]
  exact if_neg h

/-- In a comment no keys are read. -/
lemma keysRead_of_isRemark (a : Accessor) (holders : List Text) {n : Node}
    (h : n.isRemark = true) : keysRead a holders n = [] := by
  obtain ⟨kind, role, span, text, children⟩ := n
  obtain ⟨hk, -, hc⟩ := (isRemark_iff _).mp h
  simp only at hk hc
  subst hk hc
  simp [keysRead, keysReadIn, opensScope, readKey?]

/-- The `specifications` of a declaration are of the kind `varSpec`. -/
lemma kind_of_mem_specifications {n spec : Node} (h : spec ∈ specifications n) :
    spec.kind = .varSpec := by
  obtain ⟨c, -, hc⟩ := List.mem_flatMap.mp h
  split at hc
  · next hk => rwa [List.mem_singleton.mp hc]
  · simpa using (List.mem_filter.mp hc).2
  · simp at hc

/-- A statement that assigns with a mark makes one `Binding`, if both sides are there. -/
lemma bindings_of_assigned {n : Node}
    (h : n.kind = .shortVarDeclaration ∨ n.kind = .assignmentStatement) :
    bindings n = ((n.child? .left).bind fun left =>
      (n.child? .right).map fun right => ⟨listed left, listed right⟩).toList := by
  unfold bindings
  rcases h with h | h
  all_goals
    rw [h]
    cases n.child? .left <;> cases n.child? .right <;> rfl

/-- The binding `b` with the gists of its targets and values. -/
def Binding.gist (hide : Kind → Bool) (b : Binding) : Binding :=
  ⟨b.targets.map (Node.gist hide), b.values.map (Node.gist hide)⟩

section Reads

variable {hide : Kind → Bool} (hh : HidesScopes hide) (a : Accessor)
include hh

/-- Taking off parentheses commutes with taking the gist: inside parentheses the first part is kept.
-/
lemma bare_gist (n : Node) : bare (n.gist hide) = (bare n).gist hide := by
  fun_induction bare n with
  | case1 role span text => simp [gist, gistParts, bare]
  | case2 role span text inner rest ih =>
    have hp : hide .parenthesizedExpression = false := hh.eq_false rfl
    simp [gist, gistParts, firstCounts, hp, bare, ih]
  | case3 kind role span text children hk =>
    exact bare_of_kind_ne hk

/-- Whether `n` selects the accessor can be read off its gist. -/
lemma selectsAccessor_gist (n : Node) :
    selectsAccessor a (n.gist hide) = selectsAccessor a n := by
  unfold selectsAccessor
  by_cases hk : n.kind = .selectorExpression
  · have hn : hide n.kind = false := by rw [hk]; exact hh.eq_false rfl
    simp [child?_gist hn, Option.any_map]
  · have hb : (n.kind == .selectorExpression) = false := by simpa using hk
    simp [hb]

/-- Whether `n` calls the accessor can be read off its gist. -/
lemma callsAccessor_gist (n : Node) : callsAccessor a (n.gist hide) = callsAccessor a n := by
  unfold callsAccessor
  rw [bare_gist hh]
  by_cases hk : (bare n).kind = .callExpression
  · have hn : hide (bare n).kind = false := by rw [hk]; exact hh.eq_false rfl
    simp [child?_gist hn, Option.any_map, bare_gist hh, selectsAccessor_gist hh]
  · have hb : ((bare n).kind == .callExpression) = false := by simpa using hk
    simp [hb]

/-- The key that `n` reads, if it reads one, can be read off its gist. -/
lemma readKey?_gist (holders : List Text) (n : Node) :
    readKey? a holders (n.gist hide) = readKey? a holders n := by
  unfold readKey?
  by_cases hk : n.kind = .indexExpression
  · have hn : hide n.kind = false := by rw [hk]; exact hh.eq_false rfl
    rw [child?_gist hn, child?_gist hn]
    cases n.child? .operand with
    | none => simp
    | some operand =>
      cases n.child? .index with
      | none => simp
      | some index =>
        simp [hk, isMap, bare_gist hh, callsAccessor_gist hh, StringLiteral.value?]
  · simp [hk]

end Reads

mutual

/-- The keys that `keysRead` finds in a node can be read off its gist: what is emptied is not
searched, and the comments that are dropped hold no reads. -/
lemma keysRead_gist {hide : Kind → Bool} (hh : HidesScopes hide) (a : Accessor)
    (holders : List Text) :
    ∀ n : Node, keysRead a holders (n.gist hide) = keysRead a holders n
  | ⟨kind, role, span, text, children⟩ => by
    have hread := readKey?_gist hh a holders ⟨kind, role, span, text, children⟩
    cases hs : opensScope kind with
    | true => simp [gist, keysRead, hs]
    | false =>
      simp only [gist, hh.eq_false hs, Bool.false_eq_true, if_false] at hread ⊢
      simp only [keysRead, hs, Bool.false_eq_true, if_false, hread]
      rw [keysReadIn_gistParts hh a holders]

/-- The keys that `keysReadIn` finds in several nodes can be read off their gists. -/
lemma keysReadIn_gistParts {hide : Kind → Bool} (hh : HidesScopes hide) (a : Accessor)
    (holders : List Text) (keep : Bool) :
    ∀ ns : List Node, keysReadIn a holders (gistParts hide keep ns) = keysReadIn a holders ns
  | [] => rfl
  | n :: ns => by
    rw [gistParts, keysReadIn, ← keysReadIn_gistParts hh a holders false ns]
    split
    · next h => rw [keysRead_of_isRemark a holders (by simp_all), List.nil_append]
    · rw [keysReadIn, keysRead_gist hh a holders n]

end

section Bindings

variable {hide : Kind → Bool} (hh : HidesScopes hide) (a : Accessor)

/-- Parts that are no comments, in the gist. -/
lemma filter_not_isComment_gistParts (keep : Bool) (ns : List Node) :
    (gistParts hide keep ns).filter (fun c => !c.isComment) =
      (ns.filter fun c => !c.isComment).map (gist hide) := by
  refine filter_gistParts (fun n => by simp) (fun n hn => ?_) keep ns
  simp [isComment, ((isRemark_iff n).mp hn).1]

include hh

/-- The expressions `listed` in `n`, in the gist. -/
lemma listed_gist (n : Node) : listed (n.gist hide) = (listed n).map (gist hide) := by
  unfold listed
  by_cases hk : n.kind = .expressionList
  · have hn : hide n.kind = false := by rw [hk]; exact hh.eq_false rfl
    simp only [gist_kind, hk, if_true, gist_children hn]
    exact filter_not_isComment_gistParts _ _
  · simp [hk]

/-- The `specifications` of a declaration of variables, in the gist. -/
lemma specifications_gist {n : Node} (hn : hide n.kind = false) :
    specifications (n.gist hide) = (specifications n).map (gist hide) := by
  unfold specifications
  rw [gist_children hn, flatMap_gistParts, List.map_flatMap]
  · refine congrArg (List.flatMap · n.children) (funext fun c => ?_)
    rw [gist_kind]
    split
    · rfl
    · next hk =>
      rw [gist_children (by rw [hk]; exact hh.eq_false rfl)]
      refine filter_gistParts (fun s => by simp) (fun s hs => ?_) _ _
      simp [((isRemark_iff s).mp hs).1]
    · rfl
  · intro c hc
    simp [((isRemark_iff c).mp hc).1]

/-- The `bindings` that a statement makes, in the gist. -/
lemma bindings_gist (n : Node) :
    bindings (n.gist hide) = (bindings n).map (Binding.gist hide) := by
  by_cases hassigned : n.kind = .shortVarDeclaration ∨ n.kind = .assignmentStatement
  · have hn : hide n.kind = false := by
      rcases hassigned with hk | hk <;> rw [hk] <;> exact hh.eq_false rfl
    rw [bindings_of_assigned (by simpa using hassigned), bindings_of_assigned hassigned,
      child?_gist hn, child?_gist hn]
    cases n.child? .left <;> cases n.child? .right <;> simp [listed_gist hh, Binding.gist]
  unfold bindings
  rw [gist_kind]
  split
  · next hk => exact absurd (.inl hk) hassigned
  · next hk => exact absurd (.inr hk) hassigned
  · next hk =>
    rw [specifications_gist hh (by rw [hk]; exact hh.eq_false rfl), List.map_map, List.map_map]
    refine List.map_congr_left fun spec hspec => ?_
    have hkind : spec.kind = .varSpec := kind_of_mem_specifications hspec
    have hs : hide spec.kind = false := by rw [hkind]; exact hh.eq_false rfl
    simp only [Function.comp_apply, childrenWith_gist hs, child?_gist hs]
    cases spec.child? .value <;> simp [listed_gist hh, Binding.gist]
  · rfl

/-- What the binding `b` does to the variables that hold the map can be read off its gist. -/
lemma effects_gist (b : Binding) : (b.gist hide).effects a = b.effects a := by
  simp only [Binding.effects, Binding.gist, List.length_map, List.getElem?_map, Option.any_map,
    List.zipIdx_map, List.filterMap_map]
  simp [callsAccessor_gist hh]

/-- The variables in `holdersAfter` a statement can be read off its gist. -/
lemma holdersAfter_gist (holders : List Text) (n : Node) :
    holdersAfter a holders (n.gist hide) = holdersAfter a holders n := by
  unfold holdersAfter
  rw [bindings_gist hh, List.flatMap_map]
  simp only [effects_gist hh]

/-- The keys in `keysReadBy` a sequence of statements can be read off the gists of the statements.
-/
lemma keysReadBy_gist (holders : List Text) (statements : List Node) :
    keysReadBy a holders (statements.map (gist hide)) = keysReadBy a holders statements := by
  induction statements generalizing holders with
  | nil => rfl
  | cons s rest ih =>
    rw [List.map_cons, keysReadBy, keysReadBy, keysRead_gist hh, holdersAfter_gist hh, ih]

/-- Bodies whose parts have the same `gistParts` read the same route variables. -/
lemma ofBody_eq_of_gistParts_eq {body body' : Node}
    (h : gistParts hide false body.children = gistParts hide false body'.children) :
    ofBody a body = ofBody a body' := by
  unfold ofBody statementsOf
  rw [← keysReadBy_gist hh, ← keysReadBy_gist hh a [] (body'.children.filter _),
    ← filter_not_isComment_gistParts false, ← filter_not_isComment_gistParts false, h]

end Bindings

end RouteStubs.RouteVariables

namespace RouteStubs.Signature

open Syntax Syntax.Node RouteVariables

/-- The parts of a qualified type show in the gist. -/
lemma qualified?_gist (n : Node) : qualified? (n.gist hideNothing) = qualified? n := by
  unfold qualified?
  rw [gist_kind, child?_gist rfl, child?_gist rfl]
  cases n.child? .package <;> cases n.child? .name <;> simp

/-- The type of a response writer shows in the gist. -/
lemma isWriter_gist (n : Node) : isWriter (n.gist hideNothing) = isWriter n := by
  unfold isWriter
  rw [qualified?_gist]

/-- The type of a request shows in the gist: behind the star of a pointer the first part is kept. -/
lemma isRequest_gist (n : Node) : isRequest (n.gist hideNothing) = isRequest n := by
  unfold isRequest
  by_cases hk : n.kind = .pointerType
  · rw [gist_kind, head?_gist rfl (by rw [hk]; rfl)]
    cases n.children.head? with
    | none => rfl
    | some target => simp [qualified?_gist]
  · have hb : (n.kind == .pointerType) = false := by simpa using hk
    simp [hb]

/-- The `parameterTypes` of a function, in the gist. -/
lemma parameterTypes_gist (n : Node) :
    parameterTypes (n.gist hideNothing) = (parameterTypes n).map (gist hideNothing) := by
  unfold parameterTypes
  rw [child?_gist rfl]
  cases n.child? .parameters with
  | none => rfl
  | some parameters =>
    have hfilter :
        (parameters.gist hideNothing).children.filter (fun p => p.kind == .parameterDeclaration) =
          (parameters.children.filter fun p => p.kind == .parameterDeclaration).map
            (gist hideNothing) := by
      rw [gist_children rfl]
      refine filter_gistParts (fun p => by simp) (fun p hp => ?_) _ _
      simp [((isRemark_iff p).mp hp).1]
    have htype (p : Node) : (p.gist hideNothing).child? .type =
        (p.child? .type).map (gist hideNothing) := child?_gist rfl _
    simp only [Option.map_some, hfilter, List.filterMap_map, List.map_filterMap, Function.comp_def,
      htype]

/-- Whether `n` has the shape of a handler can be read off its gist. -/
lemma isHandler_gist (n : Node) : isHandler (n.gist hideNothing) = isHandler n := by
  unfold isHandler
  rw [parameterTypes_gist, List.any_map, List.any_map]
  simp only [Function.comp_def, isWriter_gist, isRequest_gist]

end RouteStubs.Signature

namespace RouteStubs

open Syntax Syntax.Node RouteVariables

/-- A body reads the same route variables as its gist. -/
lemma RouteVariables.ofBody_gist (a : Accessor) (body : Node) :
    ofBody a (body.gist hideNothing) = ofBody a body := by
  unfold ofBody statementsOf
  rw [gist_children rfl, filter_not_isComment_gistParts,
    keysReadBy_gist hidesScopes_hideNothing]

/-- The `Verdict` on a declaration `d` can be read off its gist. -/
lemma Verdict.of?_gist (a : Accessor) (d : Node) :
    Verdict.of? a (d.gist hideNothing) = Verdict.of? a d := by
  unfold Verdict.of?
  rw [gist_kind, Signature.isHandler_gist, child?_gist rfl, child?_gist rfl]
  cases d.child? .name with
  | none => rfl
  | some name => cases d.child? .body <;> simp [ofBody_gist]

/-- The handler that the declaration `d` contributes, if it is one. -/
def Classification.handlerOf? (a : Accessor) (d : Node) : Option Handler :=
  (Verdict.of? a d).bind Verdict.handler?

/-- The handlers among `declarations`: each contributes its own handler, if it is one, and nothing
else. -/
def Classification.handlersAmong (a : Accessor) (declarations : List Node) : List Handler :=
  declarations.filterMap (handlerOf? a)

/-- The handlers that `ofFile` finds are those among the declarations of the file. -/
lemma Classification.ofFile_eq (a : Accessor) (f : SourceFile) :
    ofFile a f = ⟨f.package, handlersAmong a f.root.children⟩ := by
  rw [ofFile, verdicts, List.filterMap_filterMap, handlersAmong]
  rfl

/-- The handlers among `declarations` can be read off their gists. -/
lemma Classification.handlersAmong_gistParts (a : Accessor) (keep : Bool)
    (declarations : List Node) :
    handlersAmong a (gistParts hideNothing keep declarations) = handlersAmong a declarations := by
  rw [handlersAmong, handlersAmong, List.filterMap_eq_flatMap_toList,
    List.filterMap_eq_flatMap_toList, flatMap_gistParts]
  · simp only [handlerOf?, Verdict.of?_gist]
  · intro d hd
    simp [handlerOf?, Verdict.of?, ((isRemark_iff d).mp hd).1]

/-- Declarations `ds` and `es` that are alike up to positions have the same handlers among them. -/
lemma Classification.handlersAmong_eq_of_alikeParts (a : Accessor) {ds es : List Node}
    (h : AlikeParts ds es) : handlersAmong a es = handlersAmong a ds := by
  unfold AlikeParts at h
  rw [← handlersAmong_gistParts a false ds, ← handlersAmong_gistParts a false es,
    ← gistParts_unplacedParts, h, gistParts_unplacedParts]

/-- Declarations `ds` and `es` that are the same once they are `unplaced` have the same handlers
among them. -/
lemma Classification.handlersAmong_eq_of_unplaced_eq (a : Accessor) {ds es : List Node}
    (h : ds.map unplaced = es.map unplaced) : handlersAmong a ds = handlersAmong a es := by
  rw [← unplacedParts_eq_map, ← unplacedParts_eq_map] at h
  exact handlersAmong_eq_of_alikeParts a h

/-- The package of a parsed file `f` is the one that its package clause names. -/
lemma Syntax.SourceFile.packageName?_of_parse {t : Text} {f : SourceFile}
    (h : SourceFile.parse t = .ok f) : packageName? f.root = some f.package := by
  unfold SourceFile.parse at h
  split at h
  · simp at h
  · split at h
    · simp at h
    · next hname =>
      cases h
      exact hname

/-- The name of the package can be read off the gist of the `root` of a file. -/
lemma Syntax.SourceFile.packageName?_gist (root : Node) :
    packageName? (root.gist hideNothing) = packageName? root := by
  have hfind (n : Node) (kind : Kind) (hk : kind ≠ .comment) :
      (n.gist hideNothing).children.find? (fun m => m.kind == kind) =
        (n.children.find? fun m => m.kind == kind).map (gist hideNothing) := by
    rw [← List.head?_filter, ← List.head?_filter, gist_children rfl, filter_gistParts,
      List.head?_map]
    · simp
    · intro m hm
      simp [((isRemark_iff m).mp hm).1, hk.symm]
  unfold packageName?
  rw [hfind root _ (by decide)]
  cases root.children.find? fun n => n.kind == .packageClause with
  | none => rfl
  | some clause =>
    simp only [Option.map_some, Option.bind_eq_bind, Option.bind_some]
    rw [hfind clause _ (by decide)]
    cases clause.children.find? fun n => n.kind == .packageIdentifier <;> simp

/-- Trees `m` and `n` that are alike up to positions name the same package. -/
lemma Syntax.SourceFile.packageName?_eq_of_alike {m n : Node} (h : Alike m n) :
    packageName? n = packageName? m := by
  unfold Alike at h
  rw [← packageName?_gist n, ← packageName?_gist m, ← gist_unplaced hideNothing n, h,
    gist_unplaced]

end RouteStubs
