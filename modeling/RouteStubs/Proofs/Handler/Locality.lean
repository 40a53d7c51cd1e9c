import Mathlib.Data.List.Forall2
import Mathlib.Data.List.OfFn
import RouteStubs.Proofs.Handler.Gist
import RouteStubs.Proofs.Syntax.Yields

/-!
# Locality of the classification

Which declarations of a file are handlers is decided for each declaration by itself. `Serves` says
without any search what the parameters of a handler are, and `Describes` what is reported about a
handler: its own name, and the route variables of its own body. The handlers of a parsed file are
then exactly the descriptions of the functions that serve, one for each and in the same order.

It follows that the handlers of two files put together are those of the one followed by those of the
other, that handlers move along when declarations are reordered, and that the order of parameters is
of no importance. Since texts that are put together or reordered have other positions, all of this
is said about trees up to positions.
-/

namespace RouteStubs

open Syntax Syntax.Node

/-- The node `n` with other parts. -/
def Syntax.Node.withChildren (n : Node) (children : List Node) : Node :=
  { n with children := children }

@[simp] lemma Syntax.Node.withChildren_kind (n : Node) (children : List Node) :
    (n.withChildren children).kind = n.kind := rfl

@[simp] lemma Syntax.Node.withChildren_role (n : Node) (children : List Node) :
    (n.withChildren children).role = n.role := rfl

@[simp] lemma Syntax.Node.withChildren_children (n : Node) (children : List Node) :
    (n.withChildren children).children = children := rfl

namespace Signature

/-- The type is the type `name` of the package `package`. -/
def IsQualified (type : Node) (package name : Text) : Prop :=
  type.kind = .qualifiedType ∧
    ∃ p n, type.child? .package = some p ∧ type.child? .name = some n ∧
      p.text = package ∧ n.text = name

/-- Some parameter of `function` that is not variadic has a type with the property `P`. -/
def Takes (function : Node) (P : Node → Prop) : Prop :=
  ∃ parameters p type, function.child? .parameters = some parameters ∧ p ∈ parameters.children ∧
    p.kind = .parameterDeclaration ∧ p.child? .type = some type ∧ P type

/-- The function takes a `ResponseWriter` of some package and a pointer to `http.Request`, wherever
they stand among its parameters. -/
def Serves (function : Node) : Prop :=
  Takes function (fun type => ∃ package, IsQualified type package (lit "ResponseWriter")) ∧
    Takes function fun type => type.kind = .pointerType ∧
      ∃ target others, type.children = target :: others ∧
        IsQualified target (lit "http") (lit "Request")

/-- The result of `qualified?` says exactly what `IsQualified` says. -/
lemma qualified?_eq_some_iff (type : Node) (q : Qualified) :
    qualified? type = some q ↔ IsQualified type q.package q.name := by
  unfold qualified? IsQualified
  by_cases hk : type.kind = .qualifiedType
  · cases hp : type.child? .package with
    | none => simp [hk]
    | some p =>
      cases hn : type.child? .name with
      | none => simp [hk]
      | some n =>
        obtain ⟨package, name⟩ := q
        simp [hk]
  · simp [hk]

/-- The writer's type is recognised by `isWriter`. -/
lemma isWriter_iff (type : Node) :
    isWriter type = true ↔ ∃ package, IsQualified type package (lit "ResponseWriter") := by
  rw [isWriter, Option.any_eq_true]
  constructor
  · rintro ⟨q, hq, hname⟩
    have hqualified := (qualified?_eq_some_iff type q).mp hq
    rw [of_decide_eq_true hname] at hqualified
    exact ⟨q.package, hqualified⟩
  · rintro ⟨package, h⟩
    exact ⟨⟨package, lit "ResponseWriter"⟩, (qualified?_eq_some_iff type ⟨_, _⟩).mpr h, by simp⟩

/-- The request's type is recognised by `isRequest`. -/
lemma isRequest_iff (type : Node) :
    isRequest type = true ↔ type.kind = .pointerType ∧
      ∃ target others, type.children = target :: others ∧
        IsQualified target (lit "http") (lit "Request") := by
  rw [isRequest, Bool.and_eq_true, beq_iff_eq]
  refine and_congr_right fun _ => ?_
  cases type.children with
  | nil => simp
  | cons target others =>
    rw [List.head?_cons, Option.bind_some, Option.any_eq_true]
    constructor
    · rintro ⟨q, hq, hname⟩
      simp only [Bool.and_eq_true, decide_eq_true_eq] at hname
      have hqualified := (qualified?_eq_some_iff target q).mp hq
      rw [hname.1, hname.2] at hqualified
      exact ⟨target, others, rfl, hqualified⟩
    · rintro ⟨target', others', heq, h⟩
      cases heq
      exact ⟨⟨lit "http", lit "Request"⟩, (qualified?_eq_some_iff target ⟨_, _⟩).mpr h, by simp⟩

/-- The `parameterTypes` are those of the parameters that are not variadic, so some of them
satisfies `p` exactly if the function `Takes` one. -/
lemma any_parameterTypes_iff (function : Node) {p : Node → Bool} {P : Node → Prop}
    (hp : ∀ type, p type = true ↔ P type) :
    (parameterTypes function).any p = true ↔ Takes function P := by
  unfold parameterTypes Takes
  cases function.child? .parameters with
  | none => simp
  | some parameters =>
    rw [List.any_eq_true]
    constructor
    · rintro ⟨type, htype, h⟩
      obtain ⟨q, hq, hqtype⟩ := List.mem_filterMap.mp htype
      obtain ⟨hmem, hkind⟩ := List.mem_filter.mp hq
      exact ⟨parameters, q, type, rfl, hmem, eq_of_beq hkind, hqtype, (hp type).mp h⟩
    · rintro ⟨parameters', q, type, heq, hmem, hkind, hqtype, h⟩
      cases heq
      refine ⟨type, List.mem_filterMap.mpr ⟨q, List.mem_filter.mpr ⟨hmem, ?_⟩, hqtype⟩,
        (hp type).mpr h⟩
      simp [hkind]

/-- A function has the shape of a handler by `isHandler` exactly if it `Serves`. -/
lemma isHandler_iff (function : Node) : isHandler function = true ↔ Serves function := by
  rw [isHandler, Bool.and_eq_true, any_parameterTypes_iff function isWriter_iff,
    any_parameterTypes_iff function isRequest_iff, Serves]

instance (function : Node) : Decidable (Serves function) :=
  decidable_of_iff _ (isHandler_iff function)

end Signature

namespace Classification

open Signature

/-- What is reported about a function that serves: `h` has its name, and what its own body reads. -/
def Describes (a : Accessor) (function : Node) (h : Handler) : Prop :=
  (∃ name, function.child? .name = some name ∧ h.name = name.text) ∧
    h.routeVariables =
      match function.child? .body with
      | none => []
      | some body => RouteVariables.ofBody a body

/-- The functions among `declarations` that serve. -/
def serving (declarations : List Node) : List Node :=
  declarations.filter fun d => d.kind = .functionDeclaration ∧ Serves d

/-- A named function `d` that serves contributes its description. -/
lemma handlerOf?_of_serves (a : Accessor) {d name : Node} (hk : d.kind = .functionDeclaration)
    (hname : d.child? .name = some name) (hs : Serves d) :
    ∃ h, handlerOf? a d = some h ∧ Describes a d h := by
  have hshape : isHandler d = true := (isHandler_iff d).mpr hs
  refine ⟨⟨name.text, ((d.child? .body).map (RouteVariables.ofBody a)).getD []⟩, ?_, ?_, ?_⟩
  · simp [handlerOf?, Verdict.of?, Verdict.handler?, hk, hname, hshape]
  · exact ⟨name, hname, rfl⟩
  · cases d.child? .body <;> rfl

/-- What is no function, or does not serve, contributes nothing to `handlerOf?`. -/
lemma handlerOf?_eq_none (a : Accessor) {d : Node}
    (h : ¬ (d.kind = .functionDeclaration ∧ Serves d)) : handlerOf? a d = none := by
  by_cases hk : d.kind = .functionDeclaration
  · have hshape : ¬ isHandler d = true := fun hd => h ⟨hk, (isHandler_iff d).mp hd⟩
    cases hname : d.child? .name <;>
      simp [handlerOf?, Verdict.of?, Verdict.handler?, hk, hname, hshape]
  · simp [handlerOf?, Verdict.of?, hk]

/-- The handlers among `declarations` whose functions have names are the descriptions of those that
serve, in order. -/
lemma forall₂_describes (a : Accessor) {declarations : List Node}
    (hnames : ∀ d ∈ declarations, d.kind = .functionDeclaration →
      (d.child? .name).isSome = true) :
    List.Forall₂ (Describes a) (serving declarations) (handlersAmong a declarations) := by
  induction declarations with
  | nil => exact .nil
  | cons d ds ih =>
    have ih' := ih fun e he => hnames e (List.mem_cons_of_mem _ he)
    rw [handlersAmong] at ih' ⊢
    by_cases hd : d.kind = .functionDeclaration ∧ Serves d
    · obtain ⟨name, hname⟩ :=
        Option.isSome_iff_exists.mp (hnames d List.mem_cons_self hd.1)
      obtain ⟨h, hh, hdescribes⟩ := handlerOf?_of_serves a hd.1 hname hd.2
      rw [serving, List.filter_cons_of_pos (by simpa using hd), List.filterMap_cons_some hh]
      exact .cons hdescribes ih'
    · rw [serving, List.filter_cons_of_neg (by simpa using hd),
        List.filterMap_cons_none (handlerOf?_eq_none a hd)]
      exact ih'

/-! ## Files put together and reordered -/

/-- The handlers among `ds ++ es` are those among `ds` and then those among `es`. -/
lemma handlersAmong_append (a : Accessor) (ds es : List Node) :
    handlersAmong a (ds ++ es) = handlersAmong a ds ++ handlersAmong a es :=
  List.filterMap_append

/-- The handlers among `ds` are those among each of them, one after the other. -/
lemma handlersAmong_eq_flatten (a : Accessor) (ds : List Node) :
    handlersAmong a ds = (ds.map fun d => handlersAmong a [d]).flatten := by
  induction ds with
  | nil => rfl
  | cons d ds ih => rw [List.map_cons, List.flatten_cons, ← ih, ← handlersAmong_append]; rfl

/-- The function `e` is `d` with its parameters in another order, and perhaps other positions. -/
def ReordersParameters (d e : Node) : Prop :=
  ∃ before parameters after reordered,
    d.children = before ++ parameters :: after ∧ parameters.role = some .parameters ∧
      reordered.Perm parameters.children ∧
      e.unplaced =
        (d.withChildren (before ++ parameters.withChildren reordered :: after)).unplaced

/-- Parts in other roles than that of a part `n` that is replaced by `m` are found as before. -/
lemma find?_replaced {before after : List Node} {n m : Node} (hrole : m.role = n.role) {role : Role}
    (hne : n.role ≠ some role) :
    (before ++ m :: after).find? (fun c => c.role == some role) =
      (before ++ n :: after).find? fun c => c.role == some role := by
  have hn : (n.role == some role) = false := by simpa using hne
  simp [List.find?_append, hrole, hn]

/-- The order of the `parameters` does not matter for `isHandler`. -/
lemma isHandler_reordered (d : Node) {before after reordered : List Node} {parameters : Node}
    (hd : d.children = before ++ parameters :: after) (hrole : parameters.role = some .parameters)
    (hperm : reordered.Perm parameters.children) :
    isHandler (d.withChildren (before ++ parameters.withChildren reordered :: after)) =
      isHandler d := by
  have htypes :
      (parameterTypes (d.withChildren (before ++ parameters.withChildren reordered :: after))).Perm
        (parameterTypes d) := by
    unfold parameterTypes Node.child?
    rw [withChildren_children, hd]
    cases hb : before.find? fun c => c.role == some Role.parameters with
    | some p => simp [List.find?_append, hb]
    | none =>
      simp only [List.find?_append, hb, Option.none_or, List.find?_cons, withChildren_role, hrole,
        beq_self_eq_true, withChildren_children]
      exact (hperm.filter _).filterMap _
  unfold isHandler
  rw [htypes.any_eq, htypes.any_eq]

/-- A function `e` that reorders the parameters of `d` contributes the same handler. -/
lemma handlersAmong_reordered (a : Accessor) {d e : Node} (h : ReordersParameters d e) :
    handlersAmong a [e] = handlersAmong a [d] := by
  obtain ⟨before, parameters, after, reordered, hd, hrole, hperm, he⟩ := h
  have hrest {role : Role} (hne : role ≠ .parameters) :
      (before ++ parameters.withChildren reordered :: after).find?
          (fun c => c.role == some role) =
        d.children.find? fun c => c.role == some role := by
    rw [hd]
    have hne' : parameters.role ≠ some role := by
      rw [hrole]
      simpa using hne.symm
    exact find?_replaced (n := parameters) (m := parameters.withChildren reordered) rfl hne'
  have hverdict : Verdict.of? a
      (d.withChildren (before ++ parameters.withChildren reordered :: after)) =
        Verdict.of? a d := by
    unfold Verdict.of?
    rw [isHandler_reordered d hd hrole hperm]
    simp only [Node.child?, withChildren_kind, withChildren_children,
      hrest (show Role.name ≠ .parameters by decide),
      hrest (show Role.body ≠ .parameters by decide)]
  have hplaces : [e].map unplaced =
      [d.withChildren (before ++ parameters.withChildren reordered :: after)].map
        unplaced := by
    simpa using he
  rw [handlersAmong_eq_of_unplaced_eq a hplaces]
  simp only [handlersAmong, List.filterMap_cons, List.filterMap_nil, handlerOf?, hverdict]

/-- The classification is exact and local to each declaration.
* The handlers of a parsed file are the descriptions of its functions that serve, one for each and
  in the same order, and each tells what the function's own body reads.
* The handlers of two files put together are those of the first, then those of the second.
* The handlers of a file whose declarations are reordered are those of each declaration, in the new
  order.
* Reordering the parameters of a declaration changes nothing. -/
theorem handlers_exact_and_local (a : Accessor) :
    (∀ t f, SourceFile.parse t = .ok f →
      List.Forall₂ (Describes a) (serving f.root.children) (ofFile a f).handlers) ∧
    (∀ f g both : SourceFile,
      both.root.children.map unplaced = (f.root.children ++ g.root.children).map unplaced →
        (ofFile a both).handlers = (ofFile a f).handlers ++ (ofFile a g).handlers) ∧
    (∀ (f g : SourceFile) (σ : Equiv.Perm (Fin f.root.children.length)),
      g.root.children.map unplaced =
          (List.ofFn fun i => f.root.children.get (σ i)).map unplaced →
        (ofFile a g).handlers =
          (List.ofFn fun i => handlersAmong a [f.root.children.get (σ i)]).flatten) ∧
    ∀ (f g : SourceFile) (before after : List Node) (d e : Node), ReordersParameters d e →
      f.root.children = before ++ d :: after →
      g.root.children.map unplaced = (before ++ e :: after).map unplaced →
        (ofFile a g).handlers = (ofFile a f).handlers := by
  refine ⟨fun t f hf => ?_, fun f g both h => ?_, fun f g σ h => ?_,
    fun f g before after d e hde hf hg => ?_⟩
  · rw [ofFile_eq]
    exact forall₂_describes a fun d hd hk => SourceFile.isSome_name_of_parse hf hd hk
  · rw [ofFile_eq, ofFile_eq, ofFile_eq, handlersAmong_eq_of_unplaced_eq a h, handlersAmong_append]
  · rw [ofFile_eq, handlersAmong_eq_of_unplaced_eq a h, handlersAmong_eq_flatten, List.map_ofFn]
    rfl
  · rw [ofFile_eq, ofFile_eq, hf, handlersAmong_eq_of_unplaced_eq a hg, handlersAmong_append,
      handlersAmong_append, ← List.singleton_append, handlersAmong_append,
      handlersAmong_reordered a hde, ← handlersAmong_append, List.singleton_append]

/-- In a file with a helper and a handler, the one function that serves is described. -/
theorem handlers_exact_after_helper :
    ∃ f, SourceFile.parse
        (lit "package a;func G(*http.Request);func F(*http.Request,x.ResponseWriter)\n") = .ok f ∧
      List.Forall₂ (Describes .standard) (serving f.root.children) [⟨lit "F", []⟩] := by
  have hclassified : (match SourceFile.parse
      (lit "package a;func G(*http.Request);func F(*http.Request,x.ResponseWriter)\n") with
      | .ok f => decide ((ofFile .standard f).handlers = [⟨lit "F", []⟩])
      | .error _ => false) = true := by
    decide +kernel
  split at hclassified
  · next f hf =>
    refine ⟨f, hf, ?_⟩
    rw [← of_decide_eq_true hclassified]
    exact (handlers_exact_and_local .standard).1 _ f hf
  · simp at hclassified

end Classification

end RouteStubs
