import Mathlib.Data.List.Basic
import RouteStubs.Path.Basic
import RouteStubs.Proofs.Text.ByteOrder

/-!
# The order of paths

Paths are compared component by component. The root comes first, then the directory itself, then the
one above it, then names, and names are compared byte by byte. Paths that come neither before nor
after each other have the same components, though their texts may differ.

Sorting keeps the order of paths with the same components. So it makes no difference to the others
whether a path is left out before or after sorting; and the components of a sorted list depend only
on which paths there are, not on the order in which they were given.
-/

namespace RouteStubs.Path

/-! ## Component by component -/

/-- The place of a component among those of other kinds. -/
def Component.rank : Component → Nat
  | .root => 0
  | .current => 1
  | .parent => 2
  | .normal _ => 3

/-- The component `c` comes before `d`. -/
def Component.Precedes : Component → Component → Prop
  | .normal a, .normal b => Text.encode a < Text.encode b
  | c, d => c.rank < d.rank

/-- The path `p` has the same components as `q`, or it comes before `q` on account of the first
component in which they differ. A path comes before those that lead on from it. -/
def NotAfter (p q : Text) : Prop :=
  components p = components q ∨ List.Lex Component.Precedes (components p) (components q)

/-- Lists of keys are compared as what the keys stand for, if `f` gives different keys and `before`
is the order of the keys. -/
lemma compare_map_eq_lt_iff {α β : Type} [Ord β] [Std.LawfulEqOrd β] {f : α → β}
    (hf : Function.Injective f) {before : α → α → Prop}
    (hbefore : ∀ a b, compare (f a) (f b) = .lt ↔ before a b) (as bs : List α) :
    compare (as.map f) (bs.map f) = .lt ↔ List.Lex before as bs := by
  induction as generalizing bs with
  | nil =>
    cases bs with
    | nil => simp
    | cons b bs => exact iff_of_true List.compare_nil_cons .nil
  | cons a as ih =>
    cases bs with
    | nil => simp
    | cons b bs =>
      rw [List.map_cons, List.map_cons, List.compare_cons_cons, Ordering.then_eq_lt, hbefore, ih,
        Std.LawfulEqOrd.compare_eq_iff_eq, hf.eq_iff, List.cons_lex_cons_iff]

/-- Different texts have different lists of numbers. -/
lemma map_toNat_injective : Function.Injective (List.map Char.toNat) :=
  List.map_injective_iff.mpr fun _ _ h => Char.toNat_inj.mp h

/-- Names `a` and `b` are compared by their bytes. -/
lemma compare_toNat_eq_lt_iff (a b : Text) :
    compare (a.map Char.toNat) (b.map Char.toNat) = .lt ↔ Text.encode a < Text.encode b := by
  have htoNat : Function.Injective Char.toNat := fun c d h => Char.toNat_inj.mp h
  rw [compare_map_eq_lt_iff htoNat (fun _ _ => Nat.compare_eq_lt), Text.lex_toNat_iff]

/-- Different components have different keys. -/
lemma Component.key_injective : Function.Injective Component.key := by
  intro c d h
  cases c <;> cases d <;> simp_all [Component.key, map_toNat_injective.eq_iff]

/-- Components are compared by their keys, which is what `Precedes` says. -/
lemma Component.compare_key_eq_lt_iff (c d : Component) :
    compare c.key d.key = .lt ↔ c.Precedes d := by
  cases c with
  | normal a =>
    cases d with
    | normal b =>
      rw [Component.key, Component.key, List.compare_cons_cons, Std.ReflOrd.compare_self,
        Ordering.eq_then, compare_toNat_eq_lt_iff]
      rfl
    | _ => simp [Component.key, Component.Precedes, Component.rank, List.compare_cons_cons,
        Ordering.then_eq_lt, Nat.compare_eq_lt]
  | _ =>
    cases d <;> simp [Component.key, Component.Precedes, Component.rank, List.compare_cons_cons,
      Ordering.then_eq_lt, Nat.compare_eq_lt]

/-- Paths `p` and `q` have the same keys exactly if they have the same components. -/
lemma key_eq_iff {p q : Text} : key p = key q ↔ components p = components q :=
  (List.map_injective_iff.mpr Component.key_injective).eq_iff

/-- The order `le` of paths goes component by component, which is what `NotAfter` says. -/
lemma le_iff {p q : Text} : le p q = true ↔ NotAfter p q := by
  rw [le, Ordering.isLE_iff_eq_lt_or_eq_eq, Std.LawfulEqOrd.compare_eq_iff_eq, key_eq_iff, key, key,
    compare_map_eq_lt_iff Component.key_injective Component.compare_key_eq_lt_iff, or_comm]
  rfl

/-! ## Sorting by keys -/

section

variable {α β : Type} [Ord β] [Std.TransOrd β] (f : α → β)

lemma isLE_compare_total (a b : α) :
    ((compare (f a) (f b)).isLE || (compare (f b) (f a)).isLE) = true := by
  rw [Std.OrientedOrd.eq_swap (a := f b)]
  cases compare (f a) (f b) <;> rfl

/-- The keys `f` of what has been sorted by them do not depend on the order before. -/
lemma map_mergeSort_of_perm [Std.LawfulEqOrd β] {as bs : List α} (h : as.Perm bs) :
    (as.mergeSort fun a b => (compare (f a) (f b)).isLE).map f =
      (bs.mergeSort fun a b => (compare (f a) (f b)).isLE).map f := by
  have hsorted (cs : List α) : ((cs.mergeSort fun a b => (compare (f a) (f b)).isLE).map f).Pairwise
      fun k l => (compare k l).isLE = true := by
    rw [List.pairwise_map]
    refine List.pairwise_mergeSort ?_ (isLE_compare_total f) cs
    exact fun _ _ _ => Std.TransOrd.isLE_trans
  have hperm := (List.mergeSort_perm as fun a b => (compare (f a) (f b)).isLE).trans
    (h.trans (List.mergeSort_perm bs fun a b => (compare (f a) (f b)).isLE).symm)
  refine List.Perm.eq_of_pairwise ?_ (hsorted as) (hsorted bs) (hperm.map f)
  intro k l _ _ hkl hlk
  exact Std.LawfulEqOrd.eq_of_compare (Std.OrientedCmp.isLE_antisymm hkl hlk)

end

/-! ## Sorted paths -/

lemma le_trans (p q r : Text) (hpq : le p q = true) (hqr : le q r = true) : le p r = true :=
  Std.TransOrd.isLE_trans hpq hqr

lemma le_total (p q : Text) : (le p q || le q p) = true :=
  isLE_compare_total key p q

/-- Paths ascend once `sort` has sorted them. -/
lemma pairwise_sort (ps : List Text) : (sort ps).Pairwise NotAfter :=
  (List.pairwise_mergeSort le_trans le_total ps).imp le_iff.mp

/-- One more path `p` is put in front of the first one that does not come before it. -/
lemma sort_cons (p : Text) (ps : List Text) :
    sort (p :: ps) = (sort ps).filter (fun q => !le p q) ++ p :: (sort ps).filter (le p) ∧
      (sort ps).filter (fun q => !le p q) ++ (sort ps).filter (le p) = sort ps := by
  obtain ⟨before, after, hcons, hsort, hbefore⟩ := List.mergeSort_cons le_trans le_total p ps
  have hsorted := List.pairwise_mergeSort le_trans le_total (p :: ps)
  rw [hcons] at hsorted
  have hafter : ∀ q ∈ after, le p q = true :=
    (List.pairwise_cons.mp (List.pairwise_append.mp hsorted).2.1).1
  have hfront : (before ++ after).filter (fun q => !le p q) = before := by
    rw [List.filter_append, List.filter_eq_self.mpr hbefore, List.filter_eq_nil_iff.mpr,
      List.append_nil]
    intro q hq
    simp [hafter q hq]
  have hback : (before ++ after).filter (le p) = after := by
    rw [List.filter_append, List.filter_eq_self.mpr hafter, List.filter_eq_nil_iff.mpr,
      List.nil_append]
    intro q hq
    simpa using hbefore q hq
  rw [sort, sort, hcons, hsort, hfront, hback]
  exact ⟨rfl, rfl⟩

/-- Paths that are left out of `qs` before sorting are left out of the sorted list. The induction is
on what is left out. -/
lemma sort_sublist {ps qs : List Text} (h : ps.Sublist qs) : (sort ps).Sublist (sort qs) := by
  induction h with
  | slnil => exact List.Sublist.refl _
  | @cons ps qs q _ ih =>
    obtain ⟨hcons, hsort⟩ := sort_cons q qs
    rw [← hsort] at ih
    rw [hcons]
    exact ih.middle q
  | @cons_cons ps qs q _ ih =>
    rw [(sort_cons q ps).1, (sort_cons q qs).1]
    apply List.Sublist.append
    · exact ih.filter _
    · exact (ih.filter _).cons_cons q

/-- The components of sorted paths do not depend on the order in which the paths `ps` were given. -/
lemma components_sort_of_perm {ps qs : List Text} (h : ps.Perm qs) :
    (sort ps).map components = (sort qs).map components := by
  have hkeys : (sort ps).map key = (sort qs).map key := map_mergeSort_of_perm key h
  have hmaps (rs : List Text) : rs.map key = (rs.map components).map (List.map Component.key) := by
    rw [List.map_map]
    rfl
  rw [hmaps, hmaps] at hkeys
  exact List.map_injective_iff.mpr (List.map_injective_iff.mpr Component.key_injective) hkeys

end RouteStubs.Path
