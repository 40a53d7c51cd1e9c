import RouteStubs.Proofs.Text.Boundaries

/-!
# Places in texts, counted in bytes

A text can be cut where a character begins, and at its end. If places are counted in bytes, there
are others, inside of characters, and it cannot be cut there. In the encoding of the text the two
kinds are told apart by a single byte: the one at a place inside of a character goes on with an
encoding, and the first one of a character does not.
-/

namespace RouteStubs.Text

/-! ## Lengths in bytes -/

/-- The `byteLength` of a text is the number of its bytes. -/
lemma byteLength_eq (t : Text) : byteLength t = (encode t).length := by
  have hfold (n : Nat) : t.foldl (fun n c => n + c.utf8Size) n = n + (encode t).length := by
    induction t generalizing n with
    | nil => rfl
    | cons c t ih =>
      rw [List.foldl_cons, ih, encode, encode, List.flatMap_cons, List.length_append,
        String.length_utf8EncodeChar, Nat.add_assoc]
  rw [byteLength, hfold, Nat.zero_add]

@[simp] lemma byteLength_nil : byteLength [] = 0 := rfl

@[simp] lemma byteLength_cons (c : Char) (t : Text) :
    byteLength (c :: t) = c.utf8Size + byteLength t := by
  rw [byteLength_eq, byteLength_eq, encode, List.flatMap_cons, List.length_append,
    String.length_utf8EncodeChar, encode]

@[simp] lemma byteLength_append (t u : Text) :
    byteLength (t ++ u) = byteLength t + byteLength u := by
  rw [byteLength_eq, byteLength_eq, byteLength_eq, encode, List.flatMap_append, List.length_append,
    encode, encode]

/-- Only the empty text has no bytes. -/
@[simp] lemma byteLength_eq_zero {t : Text} : byteLength t = 0 ↔ t = [] := by
  cases t with
  | nil => simp
  | cons c t => simp [Nat.ne_of_gt c.utf8Size_pos]

/-! ## Boundaries of characters -/

/-- A character of the text `t` begins at the byte `place`, or the text ends there. -/
def IsBoundary (t : Text) (place : Nat) : Prop :=
  place = byteLength t ∨ ∃ b, (encode t)[place]? = some b ∧ isContinuation b = false

/-- All bytes of a character `c` but the first one go on with its encoding. -/
lemma isContinuation_of_mem_tail_utf8EncodeChar (c : Char) :
    ∀ b ∈ (String.utf8EncodeChar c).tail, isContinuation b = true := by
  have hlater (n : Nat) : isContinuation (UInt8.ofNat (n % 64 + 0x80)) = true :=
    isContinuation_byte (by omega) (by omega)
  fun_cases String.utf8EncodeChar c with
  | case1 v h => exact List.forall_mem_nil _
  | case2 v h₁ h₂ => exact List.forall_mem_cons.mpr ⟨hlater _, List.forall_mem_nil _⟩
  | case3 v h₁ h₂ h₃ =>
    exact List.forall_mem_cons.mpr ⟨hlater _, List.forall_mem_cons.mpr
      ⟨hlater _, List.forall_mem_nil _⟩⟩
  | case4 v h₁ h₂ h₃ =>
    exact List.forall_mem_cons.mpr ⟨hlater _, List.forall_mem_cons.mpr
      ⟨hlater _, List.forall_mem_cons.mpr ⟨hlater _, List.forall_mem_nil _⟩⟩⟩

/-- Behind the first byte of the text `c :: t` its boundaries are those of `t`. -/
lemma IsBoundary.of_cons {c : Char} {t : Text} {place : Nat} (h : IsBoundary (c :: t) (place + 1)) :
    c.utf8Size ≤ place + 1 ∧ IsBoundary t (place + 1 - c.utf8Size) := by
  rcases h with hend | ⟨b, hb, hfirst⟩
  · rw [hend, byteLength_cons, Nat.add_sub_cancel_left]
    exact ⟨Nat.le_add_right _ _, .inl rfl⟩
  · rw [encode, List.flatMap_cons] at hb
    by_cases hinside : place + 1 < (String.utf8EncodeChar c).length
    · rw [List.getElem?_append_left hinside, ← List.getElem?_tail] at hb
      rw [isContinuation_of_mem_tail_utf8EncodeChar c b (List.mem_of_getElem? hb)] at hfirst
      contradiction
    · rw [List.getElem?_append_right (Nat.not_lt.mp hinside), String.length_utf8EncodeChar] at hb
      rw [String.length_utf8EncodeChar] at hinside
      exact ⟨Nat.not_lt.mp hinside, .inr ⟨b, hb, hfirst⟩⟩

/-- The boundaries of a text are the places at which it can be divided into `before` and `after`. -/
lemma isBoundary_iff {t : Text} {place : Nat} :
    IsBoundary t place ↔ ∃ before after, t = before ++ after ∧ byteLength before = place := by
  constructor
  · intro h
    induction t generalizing place with
    | nil =>
      rcases h with rfl | ⟨b, hb, -⟩
      · exact ⟨[], [], rfl, rfl⟩
      · contradiction
    | cons c t ih =>
      cases place with
      | zero => exact ⟨[], c :: t, rfl, rfl⟩
      | succ place =>
        obtain ⟨hle, hplace⟩ := h.of_cons
        obtain ⟨before, after, rfl, hbefore⟩ := ih hplace
        refine ⟨c :: before, after, rfl, ?_⟩
        rw [byteLength_cons, hbefore]
        omega
  · rintro ⟨before, after, rfl, rfl⟩
    cases after with
    | nil => exact .inl (by rw [List.append_nil])
    | cons c after =>
      obtain ⟨b, more, hc, hb⟩ := exists_utf8EncodeChar_eq c
      refine .inr ⟨b, ?_, hb⟩
      rw [byteLength_eq, encode, encode, List.flatMap_append, List.flatMap_cons, hc,
        List.getElem?_append_right (Nat.le_refl _), Nat.sub_self]
      rfl

/-! ## Cutting -/

/-- Divides a text behind the given number of bytes, unless this is inside of a character or beyond
the end. -/
def cutAt? : Nat → Text → Option (Text × Text)
  | 0, t => some ([], t)
  | _ + 1, [] => none
  | n + 1, c :: t =>
    if c.utf8Size ≤ n + 1 then
      (cutAt? (n + 1 - c.utf8Size) t).map fun (before, after) => (c :: before, after)
    else none

/-- By `cutAt?` a text is divided into what has `n` bytes and what follows it. -/
lemma cutAt?_eq_some_iff {n : Nat} {t before after : Text} :
    cutAt? n t = some (before, after) ↔ t = before ++ after ∧ byteLength before = n := by
  fun_induction cutAt? n t generalizing before with
  | case1 t =>
    rw [byteLength_eq_zero, Option.some_inj, Prod.mk.injEq]
    constructor
    · rintro ⟨rfl, rfl⟩
      exact ⟨rfl, rfl⟩
    · rintro ⟨rfl, rfl⟩
      exact ⟨rfl, rfl⟩
  | case2 n =>
    simp only [reduceCtorEq, false_iff, not_and]
    intro h
    simp [(List.append_eq_nil_iff.mp h.symm).1]
  | case3 n c t h ih =>
    rw [Option.map_eq_some_iff]
    constructor
    · rintro ⟨⟨before', after'⟩, hcut, hpair⟩
      obtain ⟨rfl, rfl⟩ := Prod.mk.inj hpair
      obtain ⟨rfl, hbefore⟩ := ih.mp hcut
      refine ⟨rfl, ?_⟩
      rw [byteLength_cons, hbefore]
      omega
    · rintro ⟨ht, hbefore⟩
      cases before with
      | nil => contradiction
      | cons d before =>
        obtain ⟨rfl, rfl⟩ := List.cons.inj ht
        rw [byteLength_cons] at hbefore
        exact ⟨(before, after), ih.mpr ⟨rfl, by omega⟩, rfl⟩
  | case4 n c t h =>
    simp only [reduceCtorEq, false_iff, not_and]
    intro ht hbefore
    cases before with
    | nil => contradiction
    | cons d before =>
      obtain ⟨rfl, rfl⟩ := List.cons.inj ht
      rw [byteLength_cons] at hbefore
      omega

/-- A text can be cut by `cutAt?` exactly at its boundaries. -/
lemma isSome_cutAt?_iff {n : Nat} {t : Text} : (cutAt? n t).isSome ↔ IsBoundary t n := by
  rw [Option.isSome_iff_exists, isBoundary_iff, Prod.exists]
  simp only [cutAt?_eq_some_iff]

instance (t : Text) (n : Nat) : Decidable (IsBoundary t n) :=
  decidable_of_iff _ isSome_cutAt?_iff

/-! ## Searching -/

/-- The place where the character `c` stands first, in bytes. -/
def placeOf? (c : Char) : Text → Option Nat
  | [] => none
  | d :: t => if d = c then some 0 else (placeOf? c t).map (d.utf8Size + ·)

lemma placeOf?_of_not_mem {c : Char} {t : Text} (h : c ∉ t) : placeOf? c t = none := by
  induction t with
  | nil => rfl
  | cons d t ih =>
    rw [List.mem_cons, not_or] at h
    rw [placeOf?, if_neg fun hd => h.1 hd.symm, ih h.2, Option.map_none]

/-- The first place of `c` is behind the bytes of what does not hold `c`. -/
lemma placeOf?_append {c : Char} {before : Text} (h : c ∉ before) (after : Text) :
    placeOf? c (before ++ c :: after) = some (byteLength before) := by
  induction before with
  | nil => rw [List.nil_append, placeOf?, if_pos rfl, byteLength_nil]
  | cons d before ih =>
    rw [List.mem_cons, not_or] at h
    rw [List.cons_append, placeOf?, if_neg fun hd => h.1 hd.symm, ih h.2, Option.map_some,
      byteLength_cons]

end RouteStubs.Text
