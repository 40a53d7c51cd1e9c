import Mathlib.Tactic.Lemma
import RouteStubs.Template.Chunk

/-!
# Where chunks begin and end

A pair of braces is found at its first occurrence, so what stands before it holds no such pair, not
even together with the first brace of the pair. This settles how a text is divided into chunks:
`chunksFrom_text` and `chunksFrom_braced` say it for texts that are written down chunk by chunk, and
`spaced_chunksFrom` says what the chunks of an arbitrary text have in common.
-/

namespace RouteStubs.Template

/-! ## Pairs -/

/-- The character `c` never stands twice in a row in `t`. -/
def PairFree (c : Char) (t : Text) : Prop :=
  ¬ [c, c] <:+: t

/-- A pair begins with the first character `a` or comes later. -/
lemma pairFree_cons {c a : Char} {t : Text} :
    PairFree c (a :: t) ↔ ¬ (a = c ∧ t.head? = some c) ∧ PairFree c t := by
  rw [PairFree, List.infix_cons_iff, not_or]
  refine and_congr_left fun _ => not_congr ?_
  cases t with
  | nil => simp
  | cons b t => simp [List.cons_prefix_cons, eq_comm]

@[simp] lemma pairFree_nil (c : Char) : PairFree c [] := by
  simp [PairFree]

/-- The first pair of a text stands where no pair stands `before`, not even an overlapping one. -/
lemma splitAtPair?_eq_some_iff {c : Char} {t before after : Text} :
    splitAtPair? c t = some (before, after) ↔
      t = before ++ c :: c :: after ∧ PairFree c (before ++ [c]) := by
  induction t generalizing before with
  | nil => simp [splitAtPair?]
  | cons a t ih =>
    cases t with
    | nil => cases before <;> simp [splitAtPair?]
    | cons b t =>
      rw [splitAtPair?]
      split
      · next hab =>
        obtain ⟨rfl, rfl⟩ := hab
        cases before with
        | nil => simp [pairFree_cons, eq_comm]
        | cons d before =>
          simp only [Option.some.injEq, Prod.mk.injEq, reduceCtorEq, false_and, List.cons_append,
            List.cons.injEq, false_iff, not_and]
          rintro ⟨rfl, hrest⟩ hfree
          cases before with
          | nil => simp [pairFree_cons] at hfree
          | cons d before =>
            simp only [List.cons_append, List.cons.injEq] at hrest
            simp [pairFree_cons, hrest.1] at hfree
      · next hab =>
        cases before with
        | nil =>
          simp only [Option.map_eq_some_iff, Prod.mk.injEq, reduceCtorEq, false_and, and_false,
            exists_false, List.nil_append, List.cons.injEq, false_iff, not_and]
          rintro ⟨rfl, rfl, -⟩
          exact absurd ⟨rfl, rfl⟩ hab
        | cons d before =>
          have hhead : (before ++ [c]).head? = (before ++ c :: c :: after).head? := by
            cases before <;> rfl
          simp only [Option.map_eq_some_iff, Prod.exists, Prod.mk.injEq, List.cons.injEq,
            List.cons_append, pairFree_cons]
          constructor
          · rintro ⟨before', after', hsplit, ⟨rfl, rfl⟩, rfl⟩
            obtain ⟨htext, hfree⟩ := ih.mp hsplit
            refine ⟨⟨rfl, htext⟩, ?_, hfree⟩
            rw [hhead, ← htext]
            simpa using hab
          · rintro ⟨⟨rfl, htext⟩, -, hfree⟩
            exact ⟨before, after, ih.mpr ⟨htext, hfree⟩, ⟨rfl, rfl⟩, rfl⟩

/-- By `splitAtPair?` no pair is found exactly if there is none. -/
lemma splitAtPair?_eq_none_iff {c : Char} {t : Text} :
    splitAtPair? c t = none ↔ PairFree c t := by
  induction t with
  | nil => simp [splitAtPair?]
  | cons a t ih =>
    cases t with
    | nil => simp [splitAtPair?, pairFree_cons]
    | cons b t =>
      rw [splitAtPair?, pairFree_cons, ← ih]
      split
      · next hab => simp [hab]
      · next hab => simp [hab]

/-- A text has no pair once `c` is put at its end exactly if it has none, and does not end with `c`.
-/
lemma pairFree_append_singleton {c : Char} {t : Text} :
    PairFree c (t ++ [c]) ↔ PairFree c t ∧ t.getLast? ≠ some c := by
  induction t with
  | nil => simp [pairFree_cons]
  | cons a t ih =>
    rw [List.cons_append, pairFree_cons, pairFree_cons, ih]
    cases t with
    | nil => simp
    | cons b t =>
      simp only [List.cons_append, List.head?_cons, List.getLast?_cons_cons]
      exact and_assoc.symm

/-! ## Chunks that have been written down -/

/-- The `name` between double braces. -/
def braced (name : Text) : Text :=
  '\x7b' :: '\x7b' :: name ++ ['\x7d', '\x7d']

/-- A text without double opening braces is a single chunk. -/
lemma chunksFrom_of_pairFree (offset : Nat) {t : Text} (h : PairFree '\x7b' t) :
    chunksFrom offset t = plain t := by
  rw [chunksFrom]
  split
  · rfl
  · next hsplit => rw [splitAtPair?_eq_none_iff.mpr h] at hsplit; simp at hsplit

/-- Where no closing braces follow what is `opened`, the chunks end with the opening ones. -/
lemma chunksFrom_of_unclosed (offset : Nat) {t before opened : Text}
    (hopen : splitAtPair? '\x7b' t = some (before, opened))
    (hclose : splitAtPair? '\x7d' opened = none) :
    chunksFrom offset t = plain before ++ [.unclosed (offset + Text.byteLength before)] := by
  rw [chunksFrom]
  split
  · next h => rw [hopen] at h; simp at h
  · next before' opened' h =>
    obtain ⟨rfl, rfl⟩ : before = before' ∧ opened = opened' := by simpa [hopen] using h
    split
    · rfl
    · next h' => rw [hclose] at h'; simp at h'

/-- The place at which the text goes on after a tag that begins at `start`. -/
def placeAfter (start : Nat) (inner closed : Text) : Nat :=
  start + 2 + Text.byteLength inner + 2 +
    (closed.length - (afterTag (Text.trim inner) closed).length)

/-- After the first tag of a text its chunks are those of what follows, `closed`. -/
lemma chunksFrom_of_closed (offset : Nat) {t before opened inner closed : Text}
    (hopen : splitAtPair? '\x7b' t = some (before, opened))
    (hclose : splitAtPair? '\x7d' opened = some (inner, closed)) :
    chunksFrom offset t =
      plain before ++ .tag (offset + Text.byteLength before) (Text.trim inner) ::
        chunksFrom (placeAfter (offset + Text.byteLength before) inner closed)
          (afterTag (Text.trim inner) closed) := by
  rw [chunksFrom]
  split
  · next h => rw [hopen] at h; simp at h
  · next before' opened' h =>
    obtain ⟨rfl, rfl⟩ : before = before' ∧ opened = opened' := by simpa [hopen] using h
    split
    · next h' => rw [hclose] at h'; simp at h'
    · next inner' closed' h' =>
      obtain ⟨rfl, rfl⟩ : inner = inner' ∧ closed = closed' := by simpa [hclose] using h'
      rfl

/-- A text `t` in front of a tag is a chunk of its own. -/
lemma chunksFrom_text (offset : Nat) {t : Text} (hne : t ≠ [])
    (hfree : PairFree '\x7b' (t ++ ['\x7b'])) (rest : Text) :
    chunksFrom offset (t ++ '\x7b' :: '\x7b' :: rest) =
      .text t :: chunksFrom (offset + Text.byteLength t) ('\x7b' :: '\x7b' :: rest) := by
  have hbefore : splitAtPair? '\x7b' (t ++ '\x7b' :: '\x7b' :: rest) = some (t, rest) :=
    splitAtPair?_eq_some_iff.mpr ⟨rfl, hfree⟩
  have hnothing : splitAtPair? '\x7b' ('\x7b' :: '\x7b' :: rest) = some ([], rest) := rfl
  have hplain : plain t = [.text t] := by simp [plain, hne]
  -- The tag has the same place on both sides, so the two divisions go on in the same way.
  cases hclose : splitAtPair? '\x7d' rest with
  | none =>
    rw [chunksFrom_of_unclosed _ hbefore hclose, chunksFrom_of_unclosed _ hnothing hclose, hplain]
    rfl
  | some pair =>
    rw [chunksFrom_of_closed _ hbefore hclose, chunksFrom_of_closed _ hnothing hclose, hplain]
    rfl

/-- A `braced` name is a tag. -/
lemma chunksFrom_braced (offset : Nat) {name : Text} (hfree : PairFree '\x7d' (name ++ ['\x7d']))
    (htrim : Text.trim name = name) (rest : Text) :
    chunksFrom offset (braced name ++ rest) =
      .tag offset name :: chunksFrom (placeAfter offset name rest) (afterTag name rest) := by
  have hopen : splitAtPair? '\x7b' (braced name ++ rest) =
      some ([], name ++ '\x7d' :: '\x7d' :: rest) := by
    simp [braced, splitAtPair?]
  have hclose : splitAtPair? '\x7d' (name ++ '\x7d' :: '\x7d' :: rest) = some (name, rest) :=
    splitAtPair?_eq_some_iff.mpr ⟨rfl, hfree⟩
  rw [chunksFrom_of_closed offset hopen hclose, htrim]
  rfl

/-! ## Chunks of an arbitrary text -/

/-- Texts among chunks are not empty, hold no double opening braces and are not adjacent, and only
the last chunk can be a text that ends with an opening brace. -/
def Spaced : List Chunk → Prop
  | [] => True
  | .text t :: chunks =>
    (t ≠ [] ∧ PairFree '\x7b' t) ∧ (chunks ≠ [] → t.getLast? ≠ some '\x7b') ∧
      (∀ u, chunks.head? ≠ some (.text u)) ∧ Spaced chunks
  | _ :: chunks => Spaced chunks

/-- A text `t` may come before `chunks` that do not begin with a text. -/
lemma spaced_plain_append {t : Text} {chunks : List Chunk}
    (hfree : PairFree '\x7b' (t ++ ['\x7b'])) (hhead : ∀ u, chunks.head? ≠ some (.text u))
    (h : Spaced chunks) : Spaced (plain t ++ chunks) := by
  obtain ⟨hpair, hlast⟩ := pairFree_append_singleton.mp hfree
  by_cases ht : t = []
  · simpa [plain, ht] using h
  · simpa [plain, ht, Spaced] using ⟨hpair, fun _ => hlast, hhead, h⟩

/-- The chunks of every text are `Spaced`. -/
lemma spaced_chunksFrom (offset : Nat) (t : Text) : Spaced (chunksFrom offset t) := by
  fun_induction chunksFrom offset t with
  | case1 offset t h =>
    have hpair : PairFree '\x7b' t := splitAtPair?_eq_none_iff.mp h
    by_cases ht : t = []
    · simp [plain, ht, Spaced]
    · simp [plain, ht, Spaced, hpair]
  | case2 offset t before opened hopen start hclose =>
    exact spaced_plain_append (splitAtPair?_eq_some_iff.mp hopen).2 (by simp) trivial
  | case3 offset t before opened hopen start inner closed hclose name rest next hlt ih =>
    exact spaced_plain_append (splitAtPair?_eq_some_iff.mp hopen).2 (by simp) ih

end RouteStubs.Template
