import Mathlib.Data.List.Basic
import RouteStubs.Proofs.Handler.LastBinding

/-!
# Groups of declared variables

Variables can be declared one after the other or together in a group, where each name is known from
the end of its own specification on. The search for route variables does not quite see it so: a
group is one statement, which is searched for reads before any of its specifications counts, while
declarations of their own count one after the other.

A group can therefore be taken apart without a change, whatever stands before and after it, exactly
if none of its specifications reads from a variable that an earlier one declares. If there is such a
read, the group misses it or reports it too much, depending on what the variable has held before.
-/

namespace RouteStubs.RouteVariables

open Syntax Syntax.Node

/-! ## Groups -/

/-- The declaration of the single specification `spec`. -/
def declared (spec : Node) : Node := .branch .varDeclaration ⟨0, 0⟩ [spec]

/-- The declaration of the specifications `specs` as a group. -/
def grouped (specs : List Node) : Node :=
  .branch .varDeclaration ⟨0, 0⟩ [.branch .varSpecList ⟨0, 0⟩ specs]

/-- Up to positions, `body` and `body'` have the same statements but for one place, where `body`
declares `specs` as a group, and `body'` one after the other. -/
def Regrouped (specs : List Node) (body body' : Node) : Prop :=
  ∃ before after, AlikeParts (before ++ grouped specs :: after) (statementsOf body) ∧
    AlikeParts (before ++ specs.map declared ++ after) (statementsOf body')

/-- The variables that `spec` declares. -/
def declaredNames (spec : Node) : List Text :=
  ((spec.childrenWith .name).filter fun n => n.kind = .identifier).map Node.text

/-- The variable from which the index expression `e` reads a key, if the variable holds the map. -/
def variableRead? (e : Node) : Option Text :=
  match e.child? .operand, e.child? .index with
  | some operand, some index =>
    if (bare operand).kind = .identifier ∧ (StringLiteral.value? (bare index)).isSome then
      some (bare operand).text
    else none
  | _, _ => none

/-- The variables from which `n` reads keys outside nested scopes, if they hold the map. -/
def variablesRead (n : Node) : List Text := (indexExpressions n).filterMap variableRead?

/-! ## Reads and the variables that hold the map -/

section

variable (a : Accessor) {holders holders' : List Text}

/-- A read from the variable `x` is reported by `readKey?` if and only if `x` holds the map. -/
lemma isSome_readKey?_iff {e : Node} (he : e.kind = .indexExpression) {x : Text}
    (hx : variableRead? e = some x) : (readKey? a holders e).isSome = true ↔ x ∈ holders := by
  unfold variableRead? at hx
  split at hx
  · next operand index hoperand hindex =>
    split_ifs at hx with hread
    obtain ⟨hkind, hkey⟩ := hread
    obtain rfl := Option.some.inj hx
    have hcall : callsAccessor a (bare operand) = false := by
      rw [← Bool.not_eq_true, callsAccessor_iff]
      exact not_isAccessorCall_of_identifier a hkind
    by_cases hmem : (bare operand).text ∈ holders
    · simp [readKey?, he, hoperand, hindex, isMap, hcall, hkind, hmem, hkey]
    · simp [readKey?, he, hoperand, hindex, isMap, hcall, hkind, hmem]
  · cases hx

/-- What `e` reads depends only on whether the variable from which it reads holds the map. -/
lemma readKey?_congr {e : Node} (h : ∀ x, variableRead? e = some x → (x ∈ holders ↔ x ∈ holders')) :
    readKey? a holders e = readKey? a holders' e := by
  unfold readKey?
  split_ifs with he
  · cases hoperand : e.child? .operand with
    | none => rfl
    | some operand =>
      cases hindex : e.child? .index with
      | none => rfl
      | some index =>
        simp only
        cases hkey : StringLiteral.value? (bare index) with
        | none => rw [ite_self, ite_self]
        | some key =>
          by_cases hkind : (bare operand).kind = .identifier
          · have hmem := h (bare operand).text (by
              simp [variableRead?, hoperand, hindex, hkind, hkey])
            simp [isMap, hmem]
          · simp [isMap, hkind]
  · rfl

/-- A node `n` reads the same keys if the variables from which it reads are in `holders` and in
`holders'` alike. -/
lemma keysRead_congr {n : Node} (h : ∀ x ∈ variablesRead n, (x ∈ holders ↔ x ∈ holders')) :
    keysRead a holders n = keysRead a holders' n := by
  rw [keysRead_eq, keysRead_eq]
  refine List.filterMap_congr fun e he => readKey?_congr a fun x hx => ?_
  exact h x (List.mem_filterMap.mpr ⟨e, he, hx⟩)

variable (hsub : ∀ x ∈ holders, x ∈ holders')
include hsub

/-- What is read with the variables `holders` is read with more of them. -/
lemma isSome_readKey?_mono {e : Node} (h : (readKey? a holders e).isSome = true) :
    (readKey? a holders' e).isSome = true := by
  cases hx : variableRead? e with
  | some x =>
    have he : e.kind = .indexExpression := by
      by_contra hne
      simp [readKey?, hne] at h
    rw [isSome_readKey?_iff a he hx] at h ⊢
    exact hsub x h
  | none => rwa [← readKey?_congr a (by simp [hx])]

lemma length_filterMap_readKey?_le (es : List Node) :
    (es.filterMap (readKey? a holders)).length ≤ (es.filterMap (readKey? a holders')).length := by
  rw [List.length_filterMap_eq_countP, List.length_filterMap_eq_countP]
  exact List.countP_mono_left fun e _ => isSome_readKey?_mono a hsub

lemma length_keysRead_le (n : Node) :
    (keysRead a holders n).length ≤ (keysRead a holders' n).length := by
  rw [keysRead_eq, keysRead_eq]
  exact length_filterMap_readKey?_le a hsub _

/-- A variable `x` that holds the map in addition, and from which `n` reads, adds a key. -/
lemma length_keysRead_lt {n : Node} {x : Text} (hread : x ∈ variablesRead n)
    (hx : x ∉ holders) (hx' : x ∈ holders') :
    (keysRead a holders n).length < (keysRead a holders' n).length := by
  obtain ⟨e, he, hvariable⟩ := List.mem_filterMap.mp hread
  have hkind : e.kind = .indexExpression := by simpa using (List.mem_filter.mp he).2
  have hnone : readKey? a holders e = none := by
    rw [← isSome_readKey?_iff a hkind hvariable] at hx
    simpa using hx
  obtain ⟨key, hkey⟩ : ∃ key, readKey? a holders' e = some key := by
    rw [← isSome_readKey?_iff a hkind hvariable] at hx'
    exact Option.isSome_iff_exists.mp hx'
  obtain ⟨front, back, hsplit⟩ := List.append_of_mem he
  have hfront := length_filterMap_readKey?_le a hsub front
  have hback := length_filterMap_readKey?_le a hsub back
  rw [keysRead_eq, keysRead_eq, hsplit]
  simp only [List.filterMap_append, List.filterMap_cons, hnone, hkey, List.length_append,
    List.length_cons]
  omega

end

/-! ## What a group reads, and what it leaves behind -/

/-- The keys that `first ++ others` read: `others` are searched with the variables that `first` have
left. -/
lemma keysReadBy_append (a : Accessor) (holders : List Text) (first others : List Node) :
    keysReadBy a holders (first ++ others) =
      keysReadBy a holders first ++
        keysReadBy a (first.foldl (holdersAfter a) holders) others := by
  induction first generalizing holders with
  | nil => rfl
  | cons s first ih =>
    rw [List.cons_append, keysReadBy, keysReadBy, ih, List.append_assoc, List.foldl_cons]

/-- Statements `ss` and `ts` that are alike up to positions read the same keys. -/
lemma keysReadBy_eq_of_alikeParts (a : Accessor) (holders : List Text) {ss ts : List Node}
    (h : AlikeParts ss ts) : keysReadBy a holders ts = keysReadBy a holders ss := by
  have hgist (ns : List Node) : ns.map (gist hideNothing) =
      (unplacedParts ns).map (gist hideNothing) := by
    rw [unplacedParts_eq_map, List.map_map]
    exact List.map_congr_left fun n _ => (gist_unplaced hideNothing n).symm
  rw [← keysReadBy_gist hidesScopes_hideNothing a holders ts,
    ← keysReadBy_gist hidesScopes_hideNothing a holders ss, hgist ts, hgist ss, h]

/-- A group reads what its specifications `specs` read, all with the same variables. -/
lemma keysRead_grouped (a : Accessor) (holders : List Text) (specs : List Node) :
    keysRead a holders (grouped specs) = specs.flatMap (keysRead a holders) := by
  have hparts (ns : List Node) : keysReadIn a holders ns = ns.flatMap (keysRead a holders) := by
    induction ns with
    | nil => rfl
    | cons n ns ih => rw [keysReadIn, ih, List.flatMap_cons]
  simp [grouped, Node.branch, keysRead, keysReadIn, opensScope, readKey?, hparts]

lemma keysRead_declared (a : Accessor) (holders : List Text) (spec : Node) :
    keysRead a holders (declared spec) = keysRead a holders spec := by
  simp [declared, Node.branch, keysRead, keysReadIn, opensScope, readKey?]

/-- The targets of a `declared` specification are its names. -/
lemma targetsOf_declared {spec : Node} (hspec : spec.kind = .varSpec) :
    targetsOf (declared spec) =
      paired (spec.childrenWith .name) (((spec.child? .value).map listed).getD []) := by
  simp [targetsOf, declared, Node.branch, hspec]

section

variable {specs : List Node} (hspecs : ∀ spec ∈ specs, spec.kind = .varSpec)
include hspecs

/-- A group has the targets of its specifications `specs`, in order. -/
lemma targetsOf_grouped : targetsOf (grouped specs) = history (specs.map declared) := by
  have hfilter : (specs.filter fun c => c.kind = .varSpec) = specs := by
    simpa [List.filter_eq_self] using hspecs
  rw [history, List.flatMap_map,
    List.flatMap_congr fun spec hspec => targetsOf_declared (hspecs spec hspec)]
  simp [targetsOf, grouped, Node.branch, hfilter]

/-- After the group of `specs` the same variables hold the map as after its specifications one by
one. -/
lemma holdersAfter_grouped (a : Accessor) (holders : List Text) :
    holdersAfter a holders (grouped specs) =
      (specs.map declared).foldl (holdersAfter a) holders := by
  have hgroup := foldl_holdersAfter_eq a holders [grouped specs]
  rw [foldl_holdersAfter_eq, ← targetsOf_grouped hspecs]
  simpa [history] using hgroup

/-- It makes no difference for a body whether `specs` are grouped exactly if it makes none for their
own reads. -/
lemma keysReadBy_grouped_eq_iff (a : Accessor) (before after : List Node) :
    keysReadBy a [] (before ++ grouped specs :: after) =
        keysReadBy a [] (before ++ specs.map declared ++ after) ↔
      specs.flatMap (keysRead a (before.foldl (holdersAfter a) [])) =
        keysReadBy a (before.foldl (holdersAfter a) []) (specs.map declared) := by
  rw [List.append_assoc, keysReadBy_append, keysReadBy_append, keysReadBy_append, keysReadBy,
    keysRead_grouped, holdersAfter_grouped hspecs, List.append_cancel_left_eq,
    List.append_cancel_right_eq]

/-- The targets of `specs` name the variables that they declare. -/
lemma exists_names_iff {x : Text} :
    (∃ t ∈ history (specs.map declared), t.Names x) ↔
      ∃ spec ∈ specs, x ∈ declaredNames spec := by
  have hone : ∀ spec ∈ specs, (∃ t ∈ targetsOf (declared spec), t.Names x) ↔
      x ∈ declaredNames spec := by
    intro spec hspec
    rw [targetsOf_declared (hspecs spec hspec), exists_names_paired_iff]
    simp [declaredNames, and_assoc]
  simp only [history, List.mem_flatMap, List.mem_map]
  constructor
  · rintro ⟨t, ⟨_, ⟨spec, hspec, rfl⟩, ht⟩, hnames⟩
    exact ⟨spec, hspec, (hone spec hspec).mp ⟨t, ht, hnames⟩⟩
  · rintro ⟨spec, hspec, hx⟩
    obtain ⟨t, ht, hnames⟩ := (hone spec hspec).mpr hx
    exact ⟨t, ⟨_, ⟨spec, hspec, rfl⟩, ht⟩, hnames⟩

/-- A variable `x` that no specification declares holds the map as before. -/
lemma mem_foldl_declared_of_forall_not_mem (a : Accessor) (holders : List Text) {x : Text}
    (hx : ∀ spec ∈ specs, x ∉ declaredNames spec) :
    x ∈ (specs.map declared).foldl (holdersAfter a) holders ↔ x ∈ holders := by
  have hnone : ∀ t ∈ history (specs.map declared), ¬ t.Names x := by
    intro t ht hnames
    obtain ⟨spec, hspec, hmem⟩ := (exists_names_iff hspecs).mp ⟨t, ht, hnames⟩
    exact hx spec hspec hmem
  rw [mem_foldl_holdersAfter]
  constructor
  · rintro (hlive | ⟨-, hmem⟩)
    · obtain ⟨t, ht, hnames⟩ := exists_names_of_live hlive
      exact absurd hnames (hnone t ht)
    · exact hmem
  · intro hmem
    exact .inr ⟨hnone, hmem⟩

/-- Whether a declared variable `x` holds the map does not depend on what it has held before. -/
lemma mem_foldl_declared_of_mem {a : Accessor} {spec : Node} (hspec : spec ∈ specs) {x : Text}
    (hx : x ∈ declaredNames spec) {holders : List Text} (holders' : List Text)
    (hmem : x ∈ (specs.map declared).foldl (holdersAfter a) holders) :
    x ∈ (specs.map declared).foldl (holdersAfter a) holders' := by
  rw [mem_foldl_holdersAfter] at hmem ⊢
  rcases hmem with hlive | ⟨hnone, -⟩
  · exact .inl hlive
  · obtain ⟨t, ht, hnames⟩ := (exists_names_iff hspecs).mpr ⟨spec, hspec, hx⟩
    exact absurd hnames (hnone t ht)

end

/-- A variable `x` that `spec` does not declare holds the map as before. -/
lemma mem_holdersAfter_declared (a : Accessor) (holders : List Text) {spec : Node}
    (hspec : spec.kind = .varSpec) {x : Text} (hx : x ∉ declaredNames spec) :
    x ∈ holdersAfter a holders (declared spec) ↔ x ∈ holders := by
  have hspecs : ∀ s ∈ [spec], s.kind = .varSpec := by simpa using hspec
  have hnone : ∀ s ∈ [spec], x ∉ declaredNames s := by simpa using hx
  exact mem_foldl_declared_of_forall_not_mem hspecs a holders hnone

/-! ## Groups that can be taken apart -/

/-- If no specification reads from a variable that an earlier one declares, then the group reads
what its specifications read one after the other. The variables `holders` of the group and the
`holders'` that change on the way need to agree only where something is still to be read. -/
lemma flatMap_keysRead_eq (a : Accessor) {holders holders' : List Text} {specs : List Node}
    (hspecs : ∀ spec ∈ specs, spec.kind = .varSpec)
    (hpair : specs.Pairwise fun s t => ∀ x ∈ variablesRead t, x ∉ declaredNames s)
    (hagree : ∀ spec ∈ specs, ∀ x ∈ variablesRead spec, (x ∈ holders ↔ x ∈ holders')) :
    specs.flatMap (keysRead a holders) = keysReadBy a holders' (specs.map declared) := by
  induction specs generalizing holders' with
  | nil => rfl
  | cons spec specs ih =>
    obtain ⟨hhead, htail⟩ := List.pairwise_cons.mp hpair
    rw [List.flatMap_cons, List.map_cons, keysReadBy, keysRead_declared,
      keysRead_congr a (hagree spec List.mem_cons_self),
      ih (fun s hs => hspecs s (List.mem_cons_of_mem _ hs)) htail]
    intro t ht x hx
    rw [hagree t (List.mem_cons_of_mem _ ht) x hx,
      mem_holdersAfter_declared a holders' (hspecs spec List.mem_cons_self) (hhead t ht x hx)]

/-! ## Groups that cannot -/

section

variable (a : Accessor)

/-- One after the other, `specs` read at least what they read with no variable at all. -/
lemma length_flatMap_keysRead_le (holders : List Text) (specs : List Node) :
    (specs.flatMap (keysRead a [])).length ≤
      (keysReadBy a holders (specs.map declared)).length := by
  induction specs generalizing holders with
  | nil => exact Nat.le_refl _
  | cons spec specs ih =>
    have hfirst : (keysRead a [] spec).length ≤ (keysRead a holders spec).length :=
      length_keysRead_le a (by simp) spec
    have hothers := ih (holdersAfter a holders (declared spec))
    rw [List.flatMap_cons, List.map_cons, keysReadBy, keysRead_declared, List.length_append,
      List.length_append]
    omega

/-- No other variables hold the map after `specs` than those that they declare and those in
`holders`. -/
lemma mem_of_mem_foldl_declared {holders holders' : List Text} {specs : List Node}
    (hspecs : ∀ spec ∈ specs, spec.kind = .varSpec)
    (hnames : ∀ spec ∈ specs, ∀ x ∈ declaredNames spec, x ∈ holders')
    (hsub : ∀ x ∈ holders, x ∈ holders') {x : Text}
    (hx : x ∈ (specs.map declared).foldl (holdersAfter a) holders) : x ∈ holders' := by
  by_cases hdeclared : ∃ spec ∈ specs, x ∈ declaredNames spec
  · obtain ⟨spec, hspec, hname⟩ := hdeclared
    exact hnames spec hspec x hname
  · rw [mem_foldl_declared_of_forall_not_mem hspecs a holders
      fun spec hspec hname => hdeclared ⟨spec, hspec, hname⟩] at hx
    exact hsub x hx

/-- One after the other, `specs` read at most what they read with all the variables that they
declare. -/
lemma length_keysReadBy_le {holders holders' : List Text} {specs : List Node}
    (hspecs : ∀ spec ∈ specs, spec.kind = .varSpec)
    (hnames : ∀ spec ∈ specs, ∀ x ∈ declaredNames spec, x ∈ holders')
    (hsub : ∀ x ∈ holders, x ∈ holders') :
    (keysReadBy a holders (specs.map declared)).length ≤
      (specs.flatMap (keysRead a holders')).length := by
  induction specs generalizing holders with
  | nil => exact Nat.le_refl _
  | cons spec specs ih =>
    have hfirst := length_keysRead_le a hsub spec
    have hnext : ∀ x ∈ holdersAfter a holders (declared spec), x ∈ holders' := by
      have hone : ∀ s ∈ [spec], s ∈ spec :: specs := by simp
      intro x hx
      exact mem_of_mem_foldl_declared a (fun s hs => hspecs s (hone s hs))
        (fun s hs => hnames s (hone s hs)) hsub hx
    have hothers := ih (fun s hs => hspecs s (List.mem_cons_of_mem _ hs))
      (fun s hs => hnames s (List.mem_cons_of_mem _ hs)) hnext
    rw [List.flatMap_cons, List.map_cons, keysReadBy, keysRead_declared, List.length_append,
      List.length_append]
    omega

/-- A variable `x` that the `earlier` specifications take up, and that has not held the map before,
adds a read if the group is taken apart. -/
lemma length_lt_of_gained {earlier : List Node} (later : List Node) {spec : Node} {x : Text}
    (hread : x ∈ variablesRead spec)
    (hx : x ∈ (earlier.map declared).foldl (holdersAfter a) []) :
    ((earlier ++ spec :: later).flatMap (keysRead a [])).length <
      (keysReadBy a [] ((earlier ++ spec :: later).map declared)).length := by
  have hearlier := length_flatMap_keysRead_le a [] earlier
  have hspec := length_keysRead_lt a (by simp) hread List.not_mem_nil hx
  have hlater := length_flatMap_keysRead_le a (holdersAfter a
    ((earlier.map declared).foldl (holdersAfter a) []) (declared spec)) later
  rw [List.flatMap_append, List.flatMap_cons, List.map_append, List.map_cons, keysReadBy_append,
    keysReadBy, keysRead_declared]
  simp only [List.length_append]
  omega

/-- A variable `x` that the `earlier` specifications give away, and that has held the map before,
takes away a read if the group is taken apart. -/
lemma length_lt_of_lost {holders : List Text} {earlier later : List Node} {spec : Node}
    (hspecs : ∀ s ∈ earlier ++ spec :: later, s.kind = .varSpec)
    (hnames : ∀ s ∈ earlier ++ spec :: later, ∀ x ∈ declaredNames s, x ∈ holders) {x : Text}
    (hread : x ∈ variablesRead spec) (hheld : x ∈ holders)
    (hx : x ∉ (earlier.map declared).foldl (holdersAfter a) holders) :
    (keysReadBy a holders ((earlier ++ spec :: later).map declared)).length <
      ((earlier ++ spec :: later).flatMap (keysRead a holders)).length := by
  have hpast : ∀ s ∈ earlier, s ∈ earlier ++ spec :: later := by
    intro s hs
    exact List.mem_append_left _ hs
  have hpresent : ∀ s ∈ earlier ++ [spec], s ∈ earlier ++ spec :: later := by
    intro s hs
    rcases List.mem_append.mp hs with hs | hs
    · exact hpast s hs
    · rw [List.mem_singleton.mp hs]
      exact List.mem_append_right _ List.mem_cons_self
  have hfuture : ∀ s ∈ later, s ∈ earlier ++ spec :: later := by
    intro s hs
    exact List.mem_append_right _ (List.mem_cons_of_mem _ hs)
  -- Along the group no variables are added, since all that it declares hold the map to begin with.
  have hsub : ∀ y ∈ (earlier.map declared).foldl (holdersAfter a) holders, y ∈ holders := by
    intro y hy
    exact mem_of_mem_foldl_declared a (fun s hs => hspecs s (hpast s hs))
      (fun s hs => hnames s (hpast s hs)) (fun _ => id) hy
  have hsub' : ∀ y ∈ holdersAfter a ((earlier.map declared).foldl (holdersAfter a) holders)
      (declared spec), y ∈ holders := by
    intro y hy
    have hy' : y ∈ ((earlier ++ [spec]).map declared).foldl (holdersAfter a) holders := by
      rw [List.map_append, List.foldl_append]
      exact hy
    exact mem_of_mem_foldl_declared a (fun s hs => hspecs s (hpresent s hs))
      (fun s hs => hnames s (hpresent s hs)) (fun _ => id) hy'
  have hearlier := length_keysReadBy_le a (fun s hs => hspecs s (hpast s hs))
    (fun s hs => hnames s (hpast s hs)) fun _ => id
  have hspec := length_keysRead_lt a hsub hread hx hheld
  have hlater := length_keysReadBy_le a (fun s hs => hspecs s (hfuture s hs))
    (fun s hs => hnames s (hfuture s hs)) hsub'
  rw [List.flatMap_append, List.flatMap_cons, List.map_append, List.map_cons, keysReadBy_append,
    keysReadBy, keysRead_declared]
  simp only [List.length_append]
  omega

end

/-- The call of the accessor `a`. -/
def accessorCall (a : Accessor) : Node :=
  let selection : Node := .branch .selectorExpression ⟨0, 0⟩
    [(Node.leaf .identifier 0 a.module).withRole (some .operand),
      (Node.leaf .fieldIdentifier 0 a.function).withRole (some .field)]
  .branch .callExpression ⟨0, 0⟩ [selection.withRole (some .function)]

/-- The statement by which a new variable `x` takes up the map. -/
def takingUp (a : Accessor) (x : Text) : Node :=
  .branch .shortVarDeclaration ⟨0, 0⟩
    [(Node.branch .expressionList ⟨0, 0⟩ [.leaf .identifier 0 x]).withRole (some .left),
      (Node.branch .expressionList ⟨0, 0⟩ [accessorCall a]).withRole (some .right)]

lemma targetsOf_takingUp (a : Accessor) (x : Text) :
    targetsOf (takingUp a x) = [⟨.leaf .identifier 0 x, some (accessorCall a)⟩] := rfl

lemma isAccessorCall_accessorCall (a : Accessor) : IsAccessorCall a (accessorCall a) :=
  ⟨rfl, _, rfl, rfl, ⟨_, rfl, rfl, rfl⟩, _, rfl, rfl⟩

/-- After the statements `takingUp` the variables `xs` hold the map. -/
lemma mem_foldl_takingUp (a : Accessor) {xs : List Text} {x : Text} (hx : x ∈ xs) :
    x ∈ (xs.map (takingUp a)).foldl (holdersAfter a) [] := by
  rw [mem_foldl_holdersAfter]
  left
  have hnamed : (⟨.leaf .identifier 0 x, some (accessorCall a)⟩ : Target) ∈
      (history (xs.map (takingUp a))).filter fun t => t.Names x := by
    simp only [List.mem_filter, decide_eq_true_eq]
    refine ⟨?_, rfl, rfl⟩
    simp only [history, List.flatMap_map, targetsOf_takingUp, List.mem_flatMap,
      List.mem_singleton]
    exact ⟨x, hx, rfl⟩
  cases hlast : ((history (xs.map (takingUp a))).filter fun t => t.Names x).getLast? with
  | none =>
    rw [List.getLast?_eq_none_iff] at hlast
    rw [hlast] at hnamed
    cases hnamed
  | some t =>
    have ht := (List.mem_filter.mp (List.mem_of_getLast? hlast)).1
    simp only [history, List.flatMap_map, targetsOf_takingUp, List.mem_flatMap,
      List.mem_singleton] at ht
    obtain ⟨y, -, rfl⟩ := ht
    exact ⟨_, hlast, _, rfl, isAccessorCall_accessorCall a⟩

/-! ## The main result -/

/-- The statements of a block are its parts if there are no comments among them. -/
lemma statementsOf_block {statements : List Node}
    (h : ∀ s ∈ statements, s.isComment = false) :
    statementsOf (.branch .block ⟨0, 0⟩ statements) = statements := by
  simpa [statementsOf, Node.branch, List.filter_eq_self] using h

/-- If a group can be taken apart in every body, then also in one where the variables `xs` have
taken up the map before. -/
lemma flatMap_keysRead_eq_of_forall {a : Accessor} {specs : List Node}
    (hspecs : ∀ spec ∈ specs, spec.kind = .varSpec)
    (hall : ∀ body body', Regrouped specs body body' → ofBody a body = ofBody a body')
    (xs : List Text) :
    specs.flatMap (keysRead a ((xs.map (takingUp a)).foldl (holdersAfter a) [])) =
      keysReadBy a ((xs.map (takingUp a)).foldl (holdersAfter a) []) (specs.map declared) := by
  have hplain : ∀ s ∈ xs.map (takingUp a), s.isComment = false := by
    intro s hs
    obtain ⟨x, -, rfl⟩ := List.mem_map.mp hs
    rfl
  have hgroup : statementsOf (.branch .block ⟨0, 0⟩ (xs.map (takingUp a) ++ [grouped specs])) =
      xs.map (takingUp a) ++ [grouped specs] := by
    apply statementsOf_block
    intro s hs
    rcases List.mem_append.mp hs with hs | hs
    · exact hplain s hs
    · rw [List.mem_singleton.mp hs]
      rfl
  have happart : statementsOf (.branch .block ⟨0, 0⟩
      (xs.map (takingUp a) ++ specs.map declared ++ [])) =
        xs.map (takingUp a) ++ specs.map declared ++ [] := by
    apply statementsOf_block
    intro s hs
    rw [List.append_nil] at hs
    rcases List.mem_append.mp hs with hs | hs
    · exact hplain s hs
    · obtain ⟨spec, -, rfl⟩ := List.mem_map.mp hs
      rfl
  rw [← keysReadBy_grouped_eq_iff hspecs a (xs.map (takingUp a)) []]
  have hsame := hall (.branch .block ⟨0, 0⟩ (xs.map (takingUp a) ++ [grouped specs]))
    (.branch .block ⟨0, 0⟩ (xs.map (takingUp a) ++ specs.map declared ++ []))
    ⟨xs.map (takingUp a), [], by rw [hgroup]; rfl, by rw [happart]; rfl⟩
  unfold ofBody at hsame
  rwa [hgroup, happart] at hsame

/-- A group in which `spec` reads from a variable that an earlier specification declares cannot be
taken apart in every body. If the `earlier` specifications leave the map with the variable, the read
is missing in a group before which nothing has been assigned; if not, it is too much in a group
before which all the variables of the group hold the map. -/
lemma not_forall_of_read (a : Accessor) {earlier later : List Node} {s spec : Node}
    (hspecs : ∀ t ∈ earlier ++ spec :: later, t.kind = .varSpec) (hs : s ∈ earlier) {x : Text}
    (hname : x ∈ declaredNames s) (hread : x ∈ variablesRead spec) :
    ¬ ∀ body body', Regrouped (earlier ++ spec :: later) body body' →
      ofBody a body = ofBody a body' := by
  intro hall
  by_cases hx : x ∈ (earlier.map declared).foldl (holdersAfter a) []
  · have hsame := flatMap_keysRead_eq_of_forall hspecs hall []
    have hlt := length_lt_of_gained a later hread hx
    exact absurd (congrArg List.length hsame) (Nat.ne_of_lt hlt)
  · have hsame := flatMap_keysRead_eq_of_forall hspecs hall
      ((earlier ++ spec :: later).flatMap declaredNames)
    have hnames : ∀ t ∈ earlier ++ spec :: later, ∀ y ∈ declaredNames t,
        y ∈ (((earlier ++ spec :: later).flatMap declaredNames).map (takingUp a)).foldl
          (holdersAfter a) [] := by
      intro t ht y hy
      exact mem_foldl_takingUp a (List.mem_flatMap.mpr ⟨t, ht, hy⟩)
    have hheld := hnames s (List.mem_append_left _ hs) x hname
    have hgone : x ∉ (earlier.map declared).foldl (holdersAfter a)
        ((((earlier ++ spec :: later).flatMap declaredNames).map (takingUp a)).foldl
          (holdersAfter a) []) := by
      intro hmem
      refine hx (mem_foldl_declared_of_mem ?_ hs hname [] hmem)
      exact fun t ht => hspecs t (List.mem_append_left _ ht)
    have hlt := length_lt_of_lost a hspecs hnames hread hheld hgone
    exact absurd (congrArg List.length hsame) (Nat.ne_of_gt hlt)

/-- A group of specifications `specs` can be taken apart without a change, in whatever body it
stands, exactly if none of them reads from a variable that an earlier one declares. -/
theorem regrouping_harmless_iff (a : Accessor) {specs : List Node}
    (hspecs : ∀ spec ∈ specs, spec.kind = .varSpec) :
    (∀ body body', Regrouped specs body body' → ofBody a body = ofBody a body') ↔
      specs.Pairwise fun s t => ∀ x ∈ variablesRead t, x ∉ declaredNames s := by
  constructor
  · intro hall
    rw [List.pairwise_iff_getElem]
    intro i j hi hj hij x hread hname
    have hsplit : specs = specs.take j ++ specs[j] :: specs.drop (j + 1) := by simp
    have hearlier : specs[i] ∈ specs.take j := List.mem_take_iff_getElem.mpr ⟨i, by omega, rfl⟩
    rw [hsplit] at hspecs hall
    exact not_forall_of_read a hspecs hearlier hname hread hall
  · rintro hpair body body' ⟨before, after, hbody, hbody'⟩
    unfold ofBody
    rw [keysReadBy_eq_of_alikeParts a [] hbody, keysReadBy_eq_of_alikeParts a [] hbody',
      keysReadBy_grouped_eq_iff hspecs]
    exact flatMap_keysRead_eq a hspecs hpair fun _ _ _ _ => Iff.rfl

/-- The specification of the variable `x` with a `value`. -/
def specOf (x : Text) (value : Node) : Node :=
  .branch .varSpec ⟨0, 0⟩
    [(Node.leaf .identifier 0 x).withRole (some .name),
      (Node.branch .expressionList ⟨0, 0⟩ [value]).withRole (some .value)]

/-- The read of `key` from the value of `operand`. -/
def readOf (operand : Node) (key : Text) : Node :=
  .branch .indexExpression ⟨0, 0⟩
    [operand.withRole (some .operand),
      (Node.leaf .interpretedStringLiteral 0 (StringLiteral.quote key)).withRole (some .index)]

/-- A group in which `v` takes up the map, and another variable a key of what the accessor returns,
can be taken apart. -/
theorem regrouping_harmless_direct :
    let specs := [specOf (lit "v") (accessorCall .standard),
      specOf (lit "w") (readOf (accessorCall .standard) (lit "id"))]
    (∀ spec ∈ specs, spec.kind = .varSpec) ∧
      ∀ body body', Regrouped specs body body' →
        ofBody .standard body = ofBody .standard body' := by
  intro specs
  have hspecs : ∀ spec ∈ specs, spec.kind = .varSpec := by decide
  have hpair : specs.Pairwise fun s t => ∀ x ∈ variablesRead t, x ∉ declaredNames s := by
    decide +kernel
  exact ⟨hspecs, (regrouping_harmless_iff .standard hspecs).mpr hpair⟩

/-- Taking a group apart can make a difference: `v` takes up the map, and the next variable of the
group reads a key from it. The key is found only if the two are declared one after the other. -/
theorem group_hides_read :
    let specs := [specOf (lit "v") (accessorCall .standard),
      specOf (lit "w") (readOf (.leaf .identifier 0 (lit "v")) (lit "id"))]
    let body : Node := .branch .block ⟨0, 0⟩ [grouped specs]
    let body' : Node := .branch .block ⟨0, 0⟩ (specs.map declared)
    Regrouped specs body body' ∧ ofBody .standard body = [] ∧
      ofBody .standard body' = [lit "id"] ∧
      (Classification.ofSource .standard (lit ("package a;func F(x.ResponseWriter,*http.Request)" ++
        "\x7bvar(v=mux.Vars();w=v[\"id\"];)\x7d\n"))).toOption =
          some ⟨lit "a", [⟨lit "F", []⟩]⟩ ∧
      (Classification.ofSource .standard (lit ("package a;func F(x.ResponseWriter,*http.Request)" ++
        "\x7bvar v=mux.Vars();var w=v[\"id\"]\x7d\n"))).toOption =
          some ⟨lit "a", [⟨lit "F", [lit "id"]⟩]⟩ := by
  intro specs body body'
  refine ⟨⟨[], [], rfl, rfl⟩, ?_, ?_, ?_, ?_⟩
  · decide +kernel
  · decide +kernel
  · decide +kernel
  · decide +kernel

end RouteStubs.RouteVariables
