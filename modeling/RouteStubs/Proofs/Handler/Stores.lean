import Mathlib.Data.Fintype.EquivFin
import RouteStubs.Proofs.Handler.VarGroups
import RouteStubs.Proofs.Syntax.Quoting

/-!
# Stores

An index expression that is assigned to is a store: it puts a value into a map under a key, and it
reads nothing. The search for route variables does not tell stores from reads, because it goes
through a statement without regard to the sides of assignments. A store into the map of route
variables is taken for a read of its key.

What comes of it is told by giving stores other keys. The route variables of a body stay the same,
whatever keys some of its stores are given, exactly if none of these stores is taken for a read:
each of them stands in a nested scope, or its key is no string literal, or it stores into something
else than what the accessor returns and the variables that hold it. The stores in question can be
chosen at will, for instance as those of assignments with a certain operator.
-/

namespace RouteStubs.Syntax

/-- Where a node stands with regard to assignments. -/
inductive Side where
  /-- None of the following. -/
  | plain
  /-- On the left of an assignment: what is assigned to, or a list or parentheses around it. -/
  | target
  /-- The index of a store, or parentheses around it. -/
  | key (store : Node)

namespace Side

/-- Where a part of `n` stands: it depends on `n` and on the `role` of the part. -/
def below (p : Side) (n : Node) (role : Option Role) : Side :=
  match n.kind, p with
  | .assignmentStatement, _ => if role = some .left then .target else .plain
  | .parenthesizedExpression, p => p
  | .expressionList, .target => .target
  | .indexExpression, .target => if role = some .index then .key n else .plain
  | _, _ => .plain

/-- The node is assigned to, or holds what is assigned to. -/
def isTarget : Side → Bool
  | .target => true
  | _ => false

/-- The string literal that is put in place of `n`. Only the string key of a store is replaced, and
only if `new` gives the store another one. -/
def newKey? (new : Node → Option Node) (p : Side) (n : Node) : Option Node :=
  match p with
  | .key store =>
    if (StringLiteral.value? n).isSome then
      (new store).filter fun literal => (StringLiteral.value? literal).isSome
    else none
  | _ => none

end Side

namespace Node

mutual

/-- The same tree with new keys in its stores: `new` says which string literal a store is given for
its key, if any. -/
def rekeyed (new : Node → Option Node) (p : Side) : Node → Node
  | ⟨kind, role, span, text, children⟩ =>
    let parts := rekeyedParts new p ⟨kind, role, span, text, children⟩ children
    match p.newKey? new ⟨kind, role, span, text, children⟩ with
    | some literal => ⟨literal.kind, role, span, literal.text, parts⟩
    | none => ⟨kind, role, span, text, parts⟩

/-- The parts of the node `n` with new keys in their stores. -/
def rekeyedParts (new : Node → Option Node) (p : Side) (n : Node) : List Node → List Node
  | [] => []
  | c :: cs => rekeyed new (p.below n c.role) c :: rekeyedParts new p n cs

end

end Node

/-! ## What new keys leave as it is -/

/-- Only string literals stand for a text by `value?`. -/
lemma StringLiteral.kind_of_isSome_value? {n : Node} (h : (value? n).isSome = true) :
    n.kind = .rawStringLiteral ∨ n.kind = .interpretedStringLiteral := by
  unfold value? at h
  split at h
  · next hk => exact .inl hk
  · next hk => exact .inr hk
  · simp at h

namespace Node

section

variable (new : Node → Option Node) (p : Side)

lemma rekeyedParts_eq_map (n : Node) (cs : List Node) :
    rekeyedParts new p n cs = cs.map fun c => c.rekeyed new (p.below n c.role) := by
  induction cs with
  | nil => rfl
  | cons c cs ih => rw [rekeyedParts, ih, List.map_cons]

/-- A node for which there is no `newKey?` keeps everything but its parts. -/
lemma rekeyed_eq {n : Node} (h : p.newKey? new n = none) :
    n.rekeyed new p =
      { n with children := n.children.map fun c => c.rekeyed new (p.below n c.role) } := by
  cases n
  rw [rekeyed, rekeyedParts_eq_map, h]

/-- The key of a store becomes the `literal`. -/
lemma rekeyed_eq_of_newKey? {n literal : Node} (h : p.newKey? new n = some literal) :
    n.rekeyed new p = ⟨literal.kind, n.role, n.span, literal.text,
      n.children.map fun c => c.rekeyed new (p.below n c.role)⟩ := by
  cases n
  rw [rekeyed, rekeyedParts_eq_map, h]

@[simp] lemma rekeyed_role (n : Node) : (n.rekeyed new p).role = n.role := by
  cases h : p.newKey? new n with
  | none => rw [rekeyed_eq new p h]
  | some k => rw [rekeyed_eq_of_newKey? new p h]

lemma rekeyed_children (n : Node) :
    (n.rekeyed new p).children = n.children.map fun c => c.rekeyed new (p.below n c.role) := by
  cases h : p.newKey? new n with
  | none => rw [rekeyed_eq new p h]
  | some k => rw [rekeyed_eq_of_newKey? new p h]

/-- Only string literals are replaced by `newKey?`, and only by string literals. -/
lemma isSome_value?_of_newKey? {n literal : Node} (h : p.newKey? new n = some literal) :
    (StringLiteral.value? n).isSome = true ∧ (StringLiteral.value? literal).isSome = true := by
  cases p with
  | key store =>
    simp only [Side.newKey?] at h
    split_ifs at h with hn
    exact ⟨hn, (Option.filter_eq_some_iff.mp h).2⟩
  | _ => simp [Side.newKey?] at h

lemma newKey?_eq_none {n : Node} (hraw : n.kind ≠ .rawStringLiteral)
    (hinterpreted : n.kind ≠ .interpretedStringLiteral) : p.newKey? new n = none := by
  cases h : p.newKey? new n with
  | none => rfl
  | some literal =>
    have hn := StringLiteral.kind_of_isSome_value? (isSome_value?_of_newKey? new p h).1
    exact (hn.elim hraw hinterpreted).elim

/-- What `f` says of a kind and what does not tell the two kinds of string literals apart is the
same for a node with new keys. -/
lemma rekeyed_kind_congr {α : Type} (f : Kind → α)
    (hf : f .rawStringLiteral = f .interpretedStringLiteral) (n : Node) :
    f (n.rekeyed new p).kind = f n.kind := by
  cases h : p.newKey? new n with
  | none => rw [rekeyed_eq new p h]
  | some literal =>
    obtain ⟨hn, hliteral⟩ := isSome_value?_of_newKey? new p h
    rw [rekeyed_eq_of_newKey? new p h]
    rcases StringLiteral.kind_of_isSome_value? hn with hn | hn <;>
      rcases StringLiteral.kind_of_isSome_value? hliteral with hliteral | hliteral <;>
        simp [hn, hliteral, hf]

/-- A node with new keys is of the given `kind`, if this is none of the kinds of string literals,
exactly if it was before. -/
lemma rekeyed_kind_eq_iff (n : Node) (kind : Kind) (hraw : kind ≠ .rawStringLiteral)
    (hinterpreted : kind ≠ .interpretedStringLiteral) :
    (n.rekeyed new p).kind = kind ↔ n.kind = kind := by
  have hf : (Kind.rawStringLiteral = kind) = (Kind.interpretedStringLiteral = kind) := by
    simp [hraw.symm, hinterpreted.symm]
  exact iff_of_eq (rekeyed_kind_congr new p (· = kind) hf n)

lemma rekeyed_kind_beq (n : Node) (kind : Kind) (hraw : kind ≠ .rawStringLiteral)
    (hinterpreted : kind ≠ .interpretedStringLiteral) :
    ((n.rekeyed new p).kind == kind) = (n.kind == kind) := by
  rw [Bool.eq_iff_iff, beq_iff_eq, beq_iff_eq]
  exact rekeyed_kind_eq_iff new p n kind hraw hinterpreted

/-- The parts of `n` in a `role` are found with their new keys. -/
lemma childrenWith_rekeyed (n : Node) (role : Role) :
    (n.rekeyed new p).childrenWith role =
      (n.childrenWith role).map (rekeyed new (p.below n (some role))) := by
  unfold childrenWith
  rw [rekeyed_children, List.filter_map]
  simp only [Function.comp_def, rekeyed_role]
  refine List.map_congr_left fun c hc => ?_
  have hrole : c.role = some role := by simpa using (List.mem_filter.mp hc).2
  rw [hrole]

lemma child?_rekeyed (n : Node) (role : Role) :
    (n.rekeyed new p).child? role =
      (n.child? role).map (rekeyed new (p.below n (some role))) := by
  rw [child?_eq_head?, child?_eq_head?, childrenWith_rekeyed, List.head?_map]

end

end Node

end RouteStubs.Syntax

namespace RouteStubs.RouteVariables

open Syntax Syntax.Node

section

variable (a : Accessor) (new : Node → Option Node) (p : Side)

/-- Taking off parentheses with `bare` commutes with new keys, since what stands in parentheses
stands where they do. -/
lemma bare_rekeyed (n : Node) : bare (n.rekeyed new p) = (bare n).rekeyed new p := by
  fun_induction bare n with
  | case1 role span text =>
    have hnone : p.newKey? new ⟨.parenthesizedExpression, role, span, text, []⟩ = none :=
      newKey?_eq_none new p (by simp) (by simp)
    rw [rekeyed_eq new p hnone]
    simp [bare]
  | case2 role span text inner rest ih =>
    have hnone : p.newKey? new ⟨.parenthesizedExpression, role, span, text, inner :: rest⟩ =
        none := newKey?_eq_none new p (by simp) (by simp)
    rw [rekeyed_eq new p hnone]
    simp [bare, Side.below, ih]
  | case3 kind role span text children hk =>
    refine bare_of_kind_ne fun h => hk ?_
    rwa [rekeyed_kind_eq_iff new p _ _ (by simp) (by simp)] at h

/-- Away from assignments a node keeps its own characters. -/
lemma rekeyed_plain_text (n : Node) : (n.rekeyed new .plain).text = n.text := by
  rw [rekeyed_eq new .plain rfl]

/-- The selection of the accessor stays one in `rekeyed`. -/
lemma selectsAccessor_rekeyed (n : Node) :
    selectsAccessor a (n.rekeyed new p) = selectsAccessor a n := by
  unfold selectsAccessor
  by_cases hk : n.kind = .selectorExpression
  · have hbelow (role : Role) : p.below n (some role) = .plain := by simp [Side.below, hk]
    simp [rekeyed_kind_beq, child?_rekeyed, hbelow, Option.any_map, rekeyed_plain_text]
  · simp [rekeyed_kind_beq, beq_eq_false_iff_ne.mpr hk]

/-- A call of the accessor stays one in `rekeyed`. -/
lemma callsAccessor_rekeyed (n : Node) : callsAccessor a (n.rekeyed new p) = callsAccessor a n := by
  unfold callsAccessor
  rw [bare_rekeyed]
  by_cases hk : (bare n).kind = .callExpression
  · simp [rekeyed_kind_beq, child?_rekeyed, Option.any_map, bare_rekeyed, selectsAccessor_rekeyed]
  · simp [rekeyed_kind_beq, beq_eq_false_iff_ne.mpr hk]

/-- Away from assignments, `isMap` holds of `n` with new keys exactly if it holds of `n`. -/
lemma isMap_rekeyed_plain (holders : List Text) (n : Node) :
    isMap a holders (n.rekeyed new .plain) = isMap a holders n := by
  simp [isMap, callsAccessor_rekeyed, rekeyed_kind_beq, rekeyed_plain_text]

/-- Away from assignments a literal stands for what it has stood for. -/
lemma value?_rekeyed_plain (n : Node) :
    StringLiteral.value? (n.rekeyed new .plain) = StringLiteral.value? n := by
  rw [rekeyed_eq new .plain rfl]
  rfl

/-- The string key of the `store` stands for the new key. -/
lemma value?_rekeyed_key (store n : Node) :
    StringLiteral.value? (n.rekeyed new (.key store)) =
      (StringLiteral.value? n).map fun k => ((new store).bind StringLiteral.value?).getD k := by
  cases h : (Side.key store).newKey? new n with
  | none =>
    rw [rekeyed_eq new _ h]
    cases hn : StringLiteral.value? n with
    | none => exact hn
    | some k =>
      have hnone : (new store).bind StringLiteral.value? = none := by
        simpa [Side.newKey?, hn, Option.filter_eq_none_iff, Option.bind_eq_none_iff] using h
      rw [hnone]
      exact hn
  | some literal =>
    obtain ⟨hn, hliteral⟩ := isSome_value?_of_newKey? new _ h
    have hstore : new store = some literal := by
      simp only [Side.newKey?, if_pos hn] at h
      exact (Option.filter_eq_some_iff.mp h).1
    obtain ⟨k, hk⟩ := Option.isSome_iff_exists.mp hn
    obtain ⟨k', hk'⟩ := Option.isSome_iff_exists.mp hliteral
    rw [rekeyed_eq_of_newKey? new _ h, hk, hstore, Option.bind_some, hk']
    exact hk'

/-- A store is taken by `readKey?` for a read of its new key, if it has been taken for a read; all
reads remain as they are. -/
lemma readKey?_rekeyed (holders : List Text) (n : Node) :
    readKey? a holders (n.rekeyed new p) =
      if p.isTarget then
        (readKey? a holders n).map fun k => ((new n).bind StringLiteral.value?).getD k
      else readKey? a holders n := by
  unfold readKey?
  simp only [rekeyed_kind_eq_iff new p n .indexExpression (by simp) (by simp)]
  by_cases hk : n.kind = .indexExpression
  · have hoperand : p.below n (some .operand) = .plain := by cases p <;> simp [Side.below, hk]
    rw [if_pos hk, if_pos hk, child?_rekeyed, child?_rekeyed, hoperand]
    cases n.child? .operand with
    | none => simp
    | some operand =>
      cases n.child? .index with
      | none => simp
      | some index =>
        simp only [Option.map_some, bare_rekeyed, isMap_rekeyed_plain]
        cases isMap a holders (bare operand) with
        | false => simp
        | true =>
          cases p with
          | target => simp [Side.below, hk, Side.isTarget, value?_rekeyed_key]
          | plain => simp [Side.below, hk, Side.isTarget, value?_rekeyed_plain]
          | key store => simp [Side.below, hk, Side.isTarget, value?_rekeyed_plain]
  · simp [hk]

end

/-! ## What new keys leave of assignments -/

section

variable (a : Accessor) (new : Node → Option Node)

/-- The members `listed` in `n` stand where `n` does. -/
lemma listed_rekeyed {p : Side} (hp : ∀ n role, n.kind = .expressionList → p.below n role = p)
    (n : Node) : listed (n.rekeyed new p) = (listed n).map (rekeyed new p) := by
  unfold listed
  simp only [rekeyed_kind_eq_iff new p n .expressionList (by simp) (by simp)]
  by_cases hk : n.kind = .expressionList
  · simp [hk, rekeyed_children, hp n _ hk, List.filter_map, Function.comp_def, isComment,
      rekeyed_kind_beq]
  · simp [hk]

lemma listed_rekeyed_plain (n : Node) :
    listed (n.rekeyed new .plain) = (listed n).map (rekeyed new .plain) :=
  listed_rekeyed new (fun n role hk => by simp [Side.below, hk]) n

lemma listed_rekeyed_target (n : Node) :
    listed (n.rekeyed new .target) = (listed n).map (rekeyed new .target) :=
  listed_rekeyed new (fun n role hk => by simp [Side.below, hk]) n

/-- The `specifications` of a declaration, with new keys. -/
lemma specifications_rekeyed {n : Node} (hk : n.kind = .varDeclaration) :
    specifications (n.rekeyed new .plain) = (specifications n).map (rekeyed new .plain) := by
  rw [specifications_eq, specifications_eq, rekeyed_children, List.flatMap_map]
  simp only [Side.below, hk, rekeyed_kind_eq_iff new .plain _ .varSpecList (by simp) (by simp)]
  rw [List.filter_flatMap, List.filter_flatMap, List.map_flatMap]
  refine congrArg (List.flatMap · n.children) (funext fun c => ?_)
  by_cases hlist : c.kind = .varSpecList
  · simp [hlist, rekeyed_children, Side.below, List.filter_map, Function.comp_def,
      rekeyed_kind_eq_iff]
  · by_cases hspec : c.kind = .varSpec
    · simp [hspec, rekeyed_kind_eq_iff]
    · simp [hlist, hspec, rekeyed_kind_eq_iff]

/-- The targets of the binding `b` take up the map with new keys as without. -/
lemma effects_rekeyed (p : Side) (b : Binding) :
    Binding.effects a ⟨b.targets.map (rekeyed new p), b.values.map (rekeyed new .plain)⟩ =
      b.effects a := by
  have hname {n : Node} (hk : n.kind = .identifier) : (n.rekeyed new p).text = n.text := by
    rw [rekeyed_eq new p (newKey?_eq_none new p (by simp [hk]) (by simp [hk]))]
  simp only [Binding.effects, List.length_map, List.getElem?_map, Option.any_map,
    List.zipIdx_map, List.filterMap_map]
  refine List.filterMap_congr fun q _ => ?_
  by_cases hk : q.1.kind = .identifier
  · simp [rekeyed_kind_eq_iff, hk, hname hk, callsAccessor_rekeyed]
  · simp [rekeyed_kind_eq_iff, hk]

/-- The `bindings` that the statement `s` makes, with new keys. -/
lemma bindings_rekeyed (s : Node) :
    bindings (s.rekeyed new .plain) = (bindings s).map fun b =>
      ⟨b.targets.map (rekeyed new (Side.plain.below s (some .left))),
        b.values.map (rekeyed new .plain)⟩ := by
  by_cases hassigned : s.kind = .shortVarDeclaration ∨ s.kind = .assignmentStatement
  · rw [bindings_of_assigned (by simpa [rekeyed_kind_eq_iff] using hassigned),
      bindings_of_assigned hassigned, child?_rekeyed, child?_rekeyed]
    rcases hassigned with hk | hk
    all_goals
      cases s.child? .left <;> cases s.child? .right <;>
        simp [Side.below, hk, listed_rekeyed_plain, listed_rekeyed_target]
  · rw [not_or] at hassigned
    by_cases hdeclared : s.kind = .varDeclaration
    · have hkind : (s.rekeyed new .plain).kind = .varDeclaration := by
        rwa [rekeyed_kind_eq_iff new _ _ _ (by simp) (by simp)]
      simp only [bindings, hkind, hdeclared, specifications_rekeyed new hdeclared, List.map_map]
      refine List.map_congr_left fun spec hspec => ?_
      have hspec' : spec.kind = .varSpec := kind_of_mem_specifications hspec
      simp only [Function.comp_apply, childrenWith_rekeyed, child?_rekeyed, Side.below, hspec',
        hdeclared]
      cases spec.child? .value <;> simp [listed_rekeyed_plain]
    · have hnone (n : Node) (h₁ : n.kind ≠ .shortVarDeclaration)
          (h₂ : n.kind ≠ .assignmentStatement) (h₃ : n.kind ≠ .varDeclaration) :
          bindings n = [] := by
        unfold bindings
        split <;> simp_all
      rw [hnone s hassigned.1 hassigned.2 hdeclared, hnone, List.map_nil]
      all_goals simp [rekeyed_kind_eq_iff, hassigned, hdeclared]

/-- After the statement `s` the same variables hold the map with new keys as without. -/
lemma holdersAfter_rekeyed (holders : List Text) (s : Node) :
    holdersAfter a holders (s.rekeyed new .plain) = holdersAfter a holders s := by
  unfold holdersAfter
  rw [bindings_rekeyed, List.flatMap_map]
  simp only [effects_rekeyed]

end

/-! ## Stores -/

mutual

/-- The nodes of a tree outside nested scopes, each with where it stands and in front of the ones
below it. -/
def placed (p : Side) : Node → List (Side × Node)
  | ⟨kind, role, span, text, children⟩ =>
    if opensScope kind then []
    else (p, ⟨kind, role, span, text, children⟩) ::
      placedIn p ⟨kind, role, span, text, children⟩ children

/-- The nodes among the parts of a node, outside nested scopes. -/
def placedIn (p : Side) (n : Node) : List Node → List (Side × Node)
  | [] => []
  | c :: cs => placed (p.below n c.role) c ++ placedIn p n cs

end

/-- The stores of a statement outside nested scopes, in the order in which they begin. -/
def stores (s : Node) : List Node :=
  ((placed .plain s).filter fun q => q.1.isTarget && q.2.kind == .indexExpression).map Prod.snd

/-- The stores of `body` that are taken for reads: each has a string literal for its key, and a call
of the accessor or a live variable for its operand. -/
def misread (a : Accessor) (body : Node) : List Node :=
  (statementsOf body).zipIdx.flatMap fun p =>
    (stores p.1).filter fun e =>
      (keyAt? a (history ((statementsOf body).take p.2)) e).isSome

/-- Up to positions, `body'` is `body` with other string literals for the string keys of some of the
`chosen` stores, in nested scopes or outside of them. -/
def Rekeyed (chosen : Node → Prop) (body body' : Node) : Prop :=
  ∃ new : Node → Option Node, (∀ store, new store ≠ none → chosen store) ∧
    AlikeParts (body.children.map (rekeyed new .plain)) body'.children

mutual

lemma outerNodes_eq_placed (p : Side) :
    ∀ n : Node, outerNodes n = (placed p n).map Prod.snd
  | ⟨kind, role, span, text, children⟩ => by
    rw [outerNodes, placed]
    split
    · rfl
    · rw [List.map_cons, outerNodesIn_eq_placedIn p _ children]

lemma outerNodesIn_eq_placedIn (p : Side) (n : Node) :
    ∀ cs : List Node, outerNodesIn cs = (placedIn p n cs).map Prod.snd
  | [] => rfl
  | c :: cs => by
    rw [outerNodesIn, placedIn, List.map_append, outerNodes_eq_placed (p.below n c.role) c,
      outerNodesIn_eq_placedIn p n cs]

end

mutual

/-- New keys change the `outerNodes` one by one. -/
lemma outerNodes_rekeyed (new : Node → Option Node) (p : Side) :
    ∀ n : Node, outerNodes (n.rekeyed new p) = (placed p n).map fun q => q.2.rekeyed new q.1
  | ⟨kind, role, span, text, children⟩ => by
    have houter (m : Node) : outerNodes m =
        if opensScope m.kind then [] else m :: outerNodesIn m.children := by
      cases m
      rw [outerNodes]
    rw [houter, rekeyed_kind_congr new p opensScope rfl, placed, rekeyed_children,
      ← rekeyedParts_eq_map]
    split
    · rfl
    · rw [List.map_cons, outerNodesIn_rekeyedParts new p _ children]

lemma outerNodesIn_rekeyedParts (new : Node → Option Node) (p : Side) (n : Node) :
    ∀ cs : List Node, outerNodesIn (rekeyedParts new p n cs) =
      (placedIn p n cs).map fun q => q.2.rekeyed new q.1
  | [] => rfl
  | c :: cs => by
    rw [rekeyedParts, outerNodesIn, placedIn, List.map_append,
      outerNodes_rekeyed new (p.below n c.role) c, outerNodesIn_rekeyedParts new p n cs]

end

/-! ## Bodies with other keys in their stores -/

section

variable (a : Accessor)

/-- The key that a node is taken to read once `new` has given stores their keys. -/
def readKeyWith? (new : Node → Option Node) (holders : List Text) (q : Side × Node) : Option Text :=
  if q.1.isTarget then
    (readKey? a holders q.2).map fun k => ((new q.2).bind StringLiteral.value?).getD k
  else readKey? a holders q.2

/-- The keys in `keysRead` of the statement `s`, by the nodes that are `placed` in it. -/
lemma keysRead_eq_placed (holders : List Text) (s : Node) :
    keysRead a holders s = (placed .plain s).filterMap fun q => readKey? a holders q.2 := by
  rw [keysRead_eq_outerNodes, outerNodes_eq_placed .plain, List.filterMap_map]
  rfl

/-- The keys in `keysRead` of the statement `s` with new keys in its stores. -/
lemma keysRead_rekeyed (new : Node → Option Node) (holders : List Text) (s : Node) :
    keysRead a holders (s.rekeyed new .plain) =
      (placed .plain s).filterMap (readKeyWith? a new holders) := by
  rw [keysRead_eq_outerNodes, outerNodes_rekeyed, List.filterMap_map]
  refine List.filterMap_congr fun q _ => ?_
  exact readKey?_rekeyed a new q.1 holders q.2

/-- Statements are searched one after the other, each with the variables that the earlier ones have
left in `holders`. -/
lemma keysReadBy_eq_flatMap (holders : List Text) (statements : List Node) :
    keysReadBy a holders statements = statements.zipIdx.flatMap fun p =>
      keysRead a ((statements.take p.2).foldl (holdersAfter a) holders) p.1 := by
  induction statements generalizing holders with
  | nil => rfl
  | cons s rest ih =>
    rw [keysReadBy, ih, List.zipIdx_cons', List.flatMap_cons, List.flatMap_map]
    rfl

/-- The keys in `keysReadBy` of statements with new keys in their stores. -/
lemma keysReadBy_rekeyed (new : Node → Option Node) (statements : List Node) :
    keysReadBy a [] (statements.map (rekeyed new .plain)) =
      statements.zipIdx.flatMap fun p =>
        (placed .plain p.1).filterMap
          (readKeyWith? a new ((statements.take p.2).foldl (holdersAfter a) [])) := by
  rw [keysReadBy_eq_flatMap, List.zipIdx_map, List.flatMap_map]
  refine congrArg (List.flatMap · statements.zipIdx) (funext fun p => ?_)
  rw [Prod.map_fst, Prod.map_snd, ← List.map_take, List.foldl_map, keysRead_rekeyed]
  simp only [holdersAfter_rekeyed, id_eq]

/-- The keys that `ofBody` finds once the stores of `body` have new keys. -/
lemma ofBody_rekeyed {new : Node → Option Node} {body body' : Node}
    (h : AlikeParts (body.children.map (rekeyed new .plain)) body'.children) :
    ofBody a body' = (statementsOf body).zipIdx.flatMap fun p =>
      (placed .plain p.1).filterMap
        (readKeyWith? a new (((statementsOf body).take p.2).foldl (holdersAfter a) [])) := by
  have hstatements : statementsOf { body with children := body.children.map (rekeyed new .plain) } =
      (statementsOf body).map (rekeyed new .plain) := by
    simp [statementsOf, List.filter_map, Function.comp_def, isComment, rekeyed_kind_beq]
  have hgist : gistParts hideNothing false body'.children =
      gistParts hideNothing false (body.children.map (rekeyed new .plain)) := by
    rw [← gistParts_unplacedParts, h, gistParts_unplacedParts]
  rw [← keysReadBy_rekeyed, ← hstatements]
  exact ofBody_eq_of_gistParts_eq hidesScopes_hideNothing a hgist

/-- A store `e` is in `misread` if its statement is searched with variables that make it a read. -/
lemma mem_misread_iff (body e : Node) :
    e ∈ misread a body ↔ ∃ p ∈ (statementsOf body).zipIdx, ∃ q ∈ placed .plain p.1,
      q.1.isTarget = true ∧ q.2 = e ∧
        (readKey? a (((statementsOf body).take p.2).foldl (holdersAfter a) []) e).isSome = true := by
  have hlive (i : Nat) (x : Text) :
      x ∈ ((statementsOf body).take i).foldl (holdersAfter a) [] ↔
        Live a (history ((statementsOf body).take i)) x := by
    simp [mem_foldl_holdersAfter]
  simp only [misread, stores, List.mem_flatMap, List.mem_filter, List.mem_map, Bool.and_eq_true,
    beq_iff_eq]
  constructor
  · rintro ⟨p, hp, ⟨q, ⟨hq, htarget, hkind⟩, rfl⟩, hkey⟩
    refine ⟨p, hp, q, hq, htarget, rfl, ?_⟩
    rwa [readKey?_eq_keyAt? a (hlive p.2) hkind]
  · rintro ⟨p, hp, q, hq, htarget, rfl, hkey⟩
    have hkind : q.2.kind = .indexExpression := by
      by_contra hne
      simp [readKey?, hne] at hkey
    refine ⟨p, hp, ⟨q, ⟨hq, htarget, hkind⟩, rfl⟩, ?_⟩
    rwa [← readKey?_eq_keyAt? a (hlive p.2) hkind]

/-- If no store in `misread` is given a new key, then the new keys change nothing. -/
lemma ofBody_eq_of_forall_misread {new : Node → Option Node} {body body' : Node}
    (hnew : ∀ e ∈ misread a body, new e = none)
    (h : AlikeParts (body.children.map (rekeyed new .plain)) body'.children) :
    ofBody a body' = ofBody a body := by
  rw [ofBody_rekeyed a h, ofBody, keysReadBy_eq_flatMap]
  refine List.flatMap_congr fun p hp => ?_
  rw [keysRead_eq_placed]
  refine List.filterMap_congr fun q hq => ?_
  unfold readKeyWith?
  split
  · next htarget =>
    cases hkey : readKey? a (((statementsOf body).take p.2).foldl (holdersAfter a) []) q.2 with
    | none => rfl
    | some k =>
      have hmem : q.2 ∈ misread a body :=
        (mem_misread_iff a body q.2).mpr ⟨p, hp, q, hq, htarget, rfl, by simp [hkey]⟩
      simp [hnew q.2 hmem]
  · rfl

/-- A store `e` in `misread` shows every key `k` that it is given. -/
lemma mem_ofBody_of_misread {new : Node → Option Node} {body body' e : Node} {k : Text}
    (he : e ∈ misread a body) (hnew : (new e).bind StringLiteral.value? = some k)
    (h : AlikeParts (body.children.map (rekeyed new .plain)) body'.children) :
    k ∈ ofBody a body' := by
  obtain ⟨p, hp, q, hq, htarget, rfl, hkey⟩ := (mem_misread_iff a body e).mp he
  obtain ⟨key, hkey⟩ := Option.isSome_iff_exists.mp hkey
  rw [ofBody_rekeyed a h, List.mem_flatMap]
  refine ⟨p, hp, List.mem_filterMap.mpr ⟨q, hq, ?_⟩⟩
  simp [readKeyWith?, htarget, hkey, hnew]

/-- The route variables of `body` do not depend on the keys of its stores exactly as far as the
stores are not taken for reads: new string keys for the `chosen` stores never change the result if
and only if none of them is in `misread`. -/
theorem rekeying_harmless_iff (body : Node) (chosen : Node → Prop) :
    (∀ body', Rekeyed chosen body body' → ofBody a body' = ofBody a body) ↔
      ∀ e ∈ misread a body, ¬ chosen e := by
  classical
  constructor
  · intro hall e he hchosen
    obtain ⟨k, hk⟩ := Infinite.exists_notMem_finset (ofBody a body).toFinset
    rw [List.mem_toFinset] at hk
    -- All chosen stores are given a key that the body does not read.
    let literal : Node := .leaf .interpretedStringLiteral 0 (StringLiteral.quote k)
    let new : Node → Option Node := fun e => if chosen e then some literal else none
    have hnew : ∀ e, new e ≠ none → chosen e := by
      intro e h
      by_contra hne
      exact h (if_neg hne)
    have hkey : (new e).bind StringLiteral.value? = some k := by
      simpa [new, hchosen] using StringLiteral.value?_quote rfl rfl
    let body' : Node := { body with children := body.children.map (rekeyed new .plain) }
    have hbody' : AlikeParts (body.children.map (rekeyed new .plain)) body'.children := rfl
    have hmem : k ∈ ofBody a body' := mem_ofBody_of_misread a he hkey hbody'
    rw [hall body' ⟨new, hnew, hbody'⟩] at hmem
    exact hk hmem
  · rintro hnone body' ⟨new, hnew, hbody'⟩
    refine ofBody_eq_of_forall_misread a (fun e he => ?_) hbody'
    by_contra hsome
    exact hnone e he (hnew e hsome)

end

/-- A body that stores an empty text under `key` of what the accessor returns, and does nothing
else. -/
def storingBody (key : Text) : Node :=
  let store := readOf (accessorCall .standard) key
  let value : Node := .leaf .interpretedStringLiteral 0 (StringLiteral.quote [])
  .branch .block ⟨0, 0⟩
    [.branch .assignmentStatement ⟨0, 0⟩
      [(Node.branch .expressionList ⟨0, 0⟩ [store]).withRole (some .left),
        (Node.branch .expressionList ⟨0, 0⟩ [value]).withRole (some .right)]]

/-- A store can be taken for a read: where nothing is read at all, the key of a store is found, and
another key is found if the store is given another one. -/
theorem store_taken_for_read :
    Rekeyed (fun _ => True) (storingBody (lit "id")) (storingBody (lit "no")) ∧
      ofBody .standard (storingBody (lit "id")) = [lit "id"] ∧
      ofBody .standard (storingBody (lit "no")) = [lit "no"] ∧
      (Classification.ofSource .standard (lit ("package a;func F(x.ResponseWriter,*http.Request)" ++
        "\x7bmux.Vars()[\"id\"]=\"\"\x7d\n"))).toOption =
          some ⟨lit "a", [⟨lit "F", [lit "id"]⟩]⟩ ∧
      (Classification.ofSource .standard (lit ("package a;func F(x.ResponseWriter,*http.Request)" ++
        "\x7bmux.Vars()[\"no\"]=\"\"\x7d\n"))).toOption =
          some ⟨lit "a", [⟨lit "F", [lit "no"]⟩]⟩ := by
  let literal : Node := .leaf .interpretedStringLiteral 0 (StringLiteral.quote (lit "no"))
  refine ⟨⟨fun _ => some literal, fun _ _ => trivial, rfl⟩, ?_, ?_, ?_, ?_⟩
  · decide +kernel
  · decide +kernel
  · decide +kernel
  · decide +kernel

end RouteStubs.RouteVariables
