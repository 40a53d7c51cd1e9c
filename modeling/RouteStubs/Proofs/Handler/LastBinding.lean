import Mathlib.Data.List.Basic
import Mathlib.Data.List.Induction
import RouteStubs.Proofs.Handler.Gist

/-!
# The last binding of a variable

The search for route variables goes through the statements of a body once. It keeps the variables
that hold the map, and it forgets a variable as soon as something else is assigned to it. The result
can be told without such a memory. A variable is *live* before a statement if, of all the targets of
earlier statements that name it, the last one is paired with a call of the accessor; and a statement
reads the keys of those index expressions, outside nested scopes, whose operand is a call of the
accessor or a live variable.

The two agree because the variables that are kept are always the live ones. This is the invariant of
`mem_foldl_holdersAfter`, which holds for any variables to begin with, so that it also tells what a
stretch of statements does in the middle of a body.
-/

namespace RouteStubs.RouteVariables

open Syntax

/-! ## Calls of the accessor -/

/-- Without its parentheses `n` is a call, and without its own parentheses the function that is
called is the selection of the accessor's function from the name of its module. -/
def IsAccessorCall (a : Accessor) (n : Node) : Prop :=
  (bare n).kind = .callExpression ∧
    ∃ f, (bare n).child? .function = some f ∧ (bare f).kind = .selectorExpression ∧
      (∃ o, (bare f).child? .operand = some o ∧ o.kind = .identifier ∧ o.text = a.module) ∧
      ∃ g, (bare f).child? .field = some g ∧ g.text = a.function

lemma callsAccessor_iff (a : Accessor) (n : Node) :
    callsAccessor a n = true ↔ IsAccessorCall a n := by
  simp [callsAccessor, selectsAccessor, IsAccessorCall, Option.any_eq_true, and_assoc]

instance (a : Accessor) (n : Node) : Decidable (IsAccessorCall a n) :=
  decidable_of_iff _ (callsAccessor_iff a n)

/-- A name is no call. -/
lemma not_isAccessorCall_of_identifier (a : Accessor) {n : Node} (h : n.kind = .identifier) :
    ¬ IsAccessorCall a n := by
  rintro ⟨hcall, -⟩
  rw [bare_of_kind_ne (by simp [h]), h] at hcall
  cases hcall

/-! ## Targets -/

/-- What is assigned to, and the value that is assigned to it. -/
structure Target where
  node : Node
  /-- Missing if there is not one value for each target. -/
  value? : Option Node

namespace Target

/-- The target `t` is the variable `x`. -/
def Names (x : Text) (t : Target) : Prop := t.node.kind = .identifier ∧ t.node.text = x

instance (x : Text) : DecidablePred (Names x) := fun t =>
  inferInstanceAs (Decidable (t.node.kind = .identifier ∧ t.node.text = x))

/-- The value of the target `t` is a call of the accessor. -/
def Takes (a : Accessor) (t : Target) : Prop := ∃ v, t.value? = some v ∧ IsAccessorCall a v

lemma takes_iff (a : Accessor) (t : Target) :
    t.value?.any (callsAccessor a) = true ↔ t.Takes a := by
  simp [Takes, Option.any_eq_true, callsAccessor_iff]

instance (a : Accessor) : DecidablePred (Takes a) := fun t => decidable_of_iff _ (takes_iff a t)

end Target

/-- The `targets` with their `values`, if there is one value for each target. -/
def paired (targets values : List Node) : List Target :=
  if targets.length = values.length then List.zipWith (fun t v => ⟨t, some v⟩) targets values
  else targets.map fun t => ⟨t, none⟩

/-- Some target names `x` if and only if `x` is among the `targets`. -/
lemma exists_names_paired_iff (targets values : List Node) (x : Text) :
    (∃ t ∈ paired targets values, t.Names x) ↔
      ∃ n ∈ targets, n.kind = .identifier ∧ n.text = x := by
  have hnodes : (paired targets values).map Target.node = targets := by
    unfold paired
    split
    · next h => exact List.ext_getElem (by simp [h]) (by simp)
    · simp [Function.comp_def]
  constructor
  · rintro ⟨t, ht, hnames⟩
    exact ⟨t.node, hnodes ▸ List.mem_map_of_mem ht, hnames⟩
  · rintro ⟨n, hn, hnames⟩
    rw [← hnodes] at hn
    obtain ⟨t, ht, rfl⟩ := List.mem_map.mp hn
    exact ⟨t, ht, hnames⟩

/-- The targets of the statement `s`, in order: those of a declaration of variables are the names of
its specifications, which may stand in a list of their own. -/
def targetsOf (s : Node) : List Target :=
  if s.kind = .shortVarDeclaration ∨ s.kind = .assignmentStatement then
    match s.child? .left, s.child? .right with
    | some left, some right => paired (listed left) (listed right)
    | _, _ => []
  else if s.kind = .varDeclaration then
    let parts := s.children.flatMap fun c => if c.kind = .varSpecList then c.children else [c]
    (parts.filter fun c => c.kind = .varSpec).flatMap fun spec =>
      paired (spec.childrenWith .name) (((spec.child? .value).map listed).getD [])
  else []

/-- The targets of the `statements`, in order. -/
def history (statements : List Node) : List Target := statements.flatMap targetsOf

/-! ## Live variables -/

/-- There is a target among `ts` that names `x`, and the last one takes up the map. -/
def Live (a : Accessor) (ts : List Target) (x : Text) : Prop :=
  ∃ t, (ts.filter fun t => t.Names x).getLast? = some t ∧ t.Takes a

lemma live_iff_any (a : Accessor) (ts : List Target) (x : Text) :
    ((ts.filter fun t => t.Names x).getLast?.any fun t => t.Takes a) = true ↔ Live a ts x := by
  simp [Live, Option.any_eq_true]

instance (a : Accessor) (ts : List Target) : DecidablePred (Live a ts) := fun x =>
  decidable_of_iff _ (live_iff_any a ts x)

lemma not_live_nil (a : Accessor) (x : Text) : ¬ Live a [] x := by
  simp [Live]

/-- A variable `x` that is `Live` has been assigned to. -/
lemma exists_names_of_live {a : Accessor} {ts : List Target} {x : Text} (h : Live a ts x) :
    ∃ t ∈ ts, t.Names x := by
  obtain ⟨t, hlast, -⟩ := h
  have hmem := List.mem_filter.mp (List.mem_of_getLast? hlast)
  exact ⟨t, hmem.1, by simpa using hmem.2⟩

/-- A further target `t` decides about the variable that it names, and about no other. -/
lemma live_append_singleton (a : Accessor) (ts : List Target) (t : Target) (x : Text) :
    Live a (ts ++ [t]) x ↔ if t.Names x then t.Takes a else Live a ts x := by
  by_cases h : t.Names x
  · simp [Live, h]
  · simp [Live, h]

/-! ## The variables that hold the map -/

/-- What the target `t` does to the variables that hold the map, as `assign` takes it. -/
def Target.effect? (a : Accessor) (t : Target) : Option (Text × Bool) :=
  if t.node.kind = .identifier then some (t.node.text, decide (t.Takes a)) else none

/-- The `effects` of a binding are those of its targets. -/
lemma effects_eq (a : Accessor) (b : Binding) :
    b.effects a = (paired b.targets b.values).filterMap (Target.effect? a) := by
  have hpaired : paired b.targets b.values = b.targets.zipIdx.map fun p =>
      ⟨p.1, if b.targets.length = b.values.length then b.values[p.2]? else none⟩ := by
    unfold paired
    split
    · next h =>
      apply List.ext_getElem
      · simp [h]
      · intro i hi hi'
        simp_all
    · exact List.ext_getElem (by simp) (by simp)
  rw [hpaired, List.filterMap_map, Binding.effects]
  refine List.filterMap_congr fun p _ => ?_
  by_cases hlength : b.targets.length = b.values.length
  · simp [Target.effect?, hlength, ← Target.takes_iff]
  · have hne : (b.targets.length == b.values.length) = false := by simpa using hlength
    simp [Target.effect?, hlength, hne, ← Target.takes_iff]

/-- The `specifications` of a declaration are found by opening the list in which they may stand. -/
lemma specifications_eq (s : Node) :
    specifications s =
      (s.children.flatMap fun c => if c.kind = .varSpecList then c.children else [c]).filter
        fun c => c.kind = .varSpec := by
  rw [List.filter_flatMap, specifications]
  refine congrArg (List.flatMap · s.children) (funext fun c => ?_)
  split
  · next hk => simp [hk]
  · next hk => simp [hk, beq_eq_decide]
  · next hk hk' => rw [if_neg hk', List.filter_singleton, decide_eq_false hk, cond_false]

/-- The targets of the statement `s` are those of the `bindings` that it makes. -/
lemma targetsOf_eq (s : Node) :
    targetsOf s = (bindings s).flatMap fun b => paired b.targets b.values := by
  unfold targetsOf
  by_cases hassigned : s.kind = .shortVarDeclaration ∨ s.kind = .assignmentStatement
  · rw [if_pos hassigned, bindings_of_assigned hassigned]
    cases s.child? .left <;> cases s.child? .right <;> simp
  rw [if_neg hassigned]
  by_cases hdeclared : s.kind = .varDeclaration
  · rw [if_pos hdeclared, bindings, hdeclared, specifications_eq, List.flatMap_map]
  · have hnone : bindings s = [] := by
      unfold bindings
      split <;> simp_all
    rw [if_neg hdeclared, hnone, List.flatMap_nil]

/-- The variables that hold the map change target by target of the `history`. -/
lemma foldl_holdersAfter_eq (a : Accessor) (holders : List Text) (statements : List Node) :
    statements.foldl (holdersAfter a) holders =
      ((history statements).filterMap (Target.effect? a)).foldl assign holders := by
  induction statements generalizing holders with
  | nil => rfl
  | cons s rest ih =>
    have hs : holdersAfter a holders s =
        ((targetsOf s).filterMap (Target.effect? a)).foldl assign holders := by
      rw [holdersAfter, targetsOf_eq, List.filterMap_flatMap]
      exact congrArg (fun f => List.foldl assign holders ((bindings s).flatMap f))
        (funext (effects_eq a))
    rw [List.foldl_cons, ih, hs, history, history, List.flatMap_cons, List.filterMap_append,
      List.foldl_append]

/-- After `assign`, the variable `name` holds the map or not, and the others do as before. -/
lemma mem_assign (holders : List Text) (name x : Text) (takes : Bool) :
    x ∈ assign holders (name, takes) ↔ if name = x then takes = true else x ∈ holders := by
  cases takes with
  | true =>
    by_cases hx : name = x
    · subst hx
      by_cases hmem : name ∈ holders <;> simp [assign, hmem]
    · by_cases hmem : name ∈ holders <;> simp [assign, hmem, hx, Ne.symm hx]
  | false =>
    by_cases hx : name = x
    · simp [assign, hx]
    · simp [assign, hx, Ne.symm hx]

/-- One target `t` decides about the variable that it names, and about no other. -/
lemma mem_foldl_effect? (a : Accessor) (holders : List Text) (t : Target) (x : Text) :
    x ∈ (t.effect? a).toList.foldl assign holders ↔
      if t.Names x then t.Takes a else x ∈ holders := by
  by_cases hkind : t.node.kind = .identifier
  · simp [Target.effect?, Target.Names, hkind, mem_assign]
  · simp [Target.effect?, Target.Names, hkind]

/-- A variable `x` holds the map after `statements` if and only if it is `Live` after them, or none
of them assigns to it and it has held the map before. The induction is from the last target of the
`history`. -/
lemma mem_foldl_holdersAfter (a : Accessor) (holders : List Text) (statements : List Node)
    (x : Text) :
    x ∈ statements.foldl (holdersAfter a) holders ↔
      Live a (history statements) x ∨
        (∀ t ∈ history statements, ¬ t.Names x) ∧ x ∈ holders := by
  rw [foldl_holdersAfter_eq]
  induction history statements using List.reverseRecOn with
  | nil => simp [not_live_nil]
  | append_singleton ts t ih =>
    have hlast : [t].filterMap (Target.effect? a) = (t.effect? a).toList := by
      cases h : t.effect? a <;> simp [h]
    rw [List.filterMap_append, List.foldl_append, hlast, mem_foldl_effect?,
      live_append_singleton]
    by_cases ht : t.Names x
    · have hnamed : ¬ ∀ t' ∈ ts ++ [t], ¬ t'.Names x := fun h => h t (by simp) ht
      simp only [if_pos ht, hnamed, false_and, or_false]
    · simp [ht, ih, or_imp, forall_and]

/-! ## Reads -/

mutual

/-- The nodes of a tree outside nested scopes, each in front of the ones below it. -/
def outerNodes : Node → List Node
  | ⟨kind, role, span, text, children⟩ =>
    if opensScope kind then []
    else ⟨kind, role, span, text, children⟩ :: outerNodesIn children

/-- The nodes of several trees outside nested scopes. -/
def outerNodesIn : List Node → List Node
  | [] => []
  | n :: ns => outerNodes n ++ outerNodesIn ns

end

/-- The index expressions of a tree outside nested scopes, in the order in which they begin. -/
def indexExpressions (n : Node) : List Node :=
  (outerNodes n).filter fun e => e.kind = .indexExpression

/-- The key that the index expression `e` reads: its index is a string literal, and its operand is a
call of the accessor or a variable that is `Live` after the targets `ts`. -/
def keyAt? (a : Accessor) (ts : List Target) (e : Node) : Option Text :=
  match e.child? .operand, e.child? .index with
  | some operand, some index =>
    if IsAccessorCall a (bare operand) ∨
        (bare operand).kind = .identifier ∧ Live a ts (bare operand).text then
      StringLiteral.value? (bare index)
    else none
  | _, _ => none

mutual

lemma keysRead_eq_outerNodes (a : Accessor) (holders : List Text) :
    ∀ n : Node, keysRead a holders n = (outerNodes n).filterMap (readKey? a holders)
  | ⟨kind, role, span, text, children⟩ => by
    rw [keysRead, outerNodes]
    split
    · rfl
    · rw [List.filterMap_cons, keysReadIn_eq_outerNodesIn a holders children]
      cases readKey? a holders ⟨kind, role, span, text, children⟩ <;> rfl

lemma keysReadIn_eq_outerNodesIn (a : Accessor) (holders : List Text) :
    ∀ ns : List Node, keysReadIn a holders ns = (outerNodesIn ns).filterMap (readKey? a holders)
  | [] => rfl
  | n :: ns => by
    rw [keysReadIn, outerNodesIn, List.filterMap_append, keysRead_eq_outerNodes a holders n,
      keysReadIn_eq_outerNodesIn a holders ns]

end

/-- The keys in `keysRead` of a node are those of its `indexExpressions`. -/
lemma keysRead_eq (a : Accessor) (holders : List Text) (n : Node) :
    keysRead a holders n = (indexExpressions n).filterMap (readKey? a holders) := by
  rw [keysRead_eq_outerNodes, indexExpressions, List.filterMap_filter]
  refine List.filterMap_congr fun e _ => ?_
  by_cases hk : e.kind = .indexExpression
  · simp [hk]
  · simp [hk, readKey?]

/-- If the variables in `holders` are the ones that are `Live` after `ts`, then `readKey?` is
`keyAt?`. -/
lemma readKey?_eq_keyAt? (a : Accessor) {holders : List Text} {ts : List Target}
    (h : ∀ x, x ∈ holders ↔ Live a ts x) {e : Node} (he : e.kind = .indexExpression) :
    readKey? a holders e = keyAt? a ts e := by
  unfold readKey? keyAt?
  rw [if_pos he]
  cases e.child? .operand with
  | none => rfl
  | some operand =>
    cases e.child? .index with
    | none => rfl
    | some index => simp [isMap, callsAccessor_iff, h]

end RouteStubs.RouteVariables
