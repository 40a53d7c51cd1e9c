import RouteStubs.Proofs.Text.Utf8

/-!
# Texts in the order of their bytes

Comparing texts character by character and comparing their bytes one by one come to the same. A
longer encoding begins with a larger byte, and within encodings of the same length the larger
character has the larger byte at the first place where they differ, because each byte holds a digit
of the character's number in base 64.
-/

namespace RouteStubs.Text

/-- The first bytes decide, by their numbers `m` and `n`, unless they are the same. -/
lemma byte_cons_lt_byte_cons {m n : Nat} (hm : m < 256) (hn : n < 256) (rest rest' : List UInt8) :
    UInt8.ofNat m :: rest < UInt8.ofNat n :: rest' ↔ m < n ∨ m = n ∧ rest < rest' := by
  rw [List.cons_lt_cons_iff, byte_lt hm, byte_eq hm, toNat_byte hn]

/-- Behind the same `bytes`, what follows decides. -/
lemma append_lt_append_iff (bytes rest rest' : List UInt8) :
    bytes ++ rest < bytes ++ rest' ↔ rest < rest' := by
  induction bytes with
  | nil => rfl
  | cons b bytes ih => simp [ih]

/-- A number without its last `k` digits in base 64. -/
def lead : Nat → Nat → Nat
  | 0, n => n
  | k + 1, n => lead k (n / 64)

/-- The last `k` digits of a number in base 64, each in a byte of its own. -/
def continuation : Nat → Nat → List UInt8
  | 0, _ => []
  | k + 1, n => continuation k (n / 64) ++ [UInt8.ofNat (n % 64 + 0x80)]

/-- Of numbers `m` and `n` that differ only in their last digits, the smaller one has the smaller
digits. The induction is on how many digits there are: the last of them decides only if the others
are the same. -/
lemma continuation_append_lt {k m n : Nat} (h : m < n) (hsame : lead k m = lead k n)
    (rest rest' : List UInt8) : continuation k m ++ rest < continuation k n ++ rest' := by
  induction k generalizing m n rest rest' with
  | zero => exact absurd hsame (Nat.ne_of_lt h)
  | succ k ih =>
    have hle : m / 64 ≤ n / 64 := Nat.div_le_div_right (Nat.le_of_lt h)
    rw [continuation, continuation, List.append_assoc, List.append_assoc]
    rcases Nat.lt_or_eq_of_le hle with hlt | heq
    · exact ih hlt hsame _ _
    · rw [heq, append_lt_append_iff, List.singleton_append, List.singleton_append,
        byte_cons_lt_byte_cons (by omega) (by omega)]
      left
      omega

/-- What marks the first byte of an encoding with `k` further bytes. -/
def mark : Nat → Nat
  | 0 => 0
  | 1 => 0xc0
  | 2 => 0xe0
  | _ => 0xf0

/-- The number of a character whose encoding has `k` further bytes. -/
def NeedsBytes (k n : Nat) : Prop :=
  k = 0 ∧ n < 0x80 ∨ k = 1 ∧ 0x80 ≤ n ∧ n < 0x800 ∨ k = 2 ∧ 0x800 ≤ n ∧ n < 0x10000 ∨
    k = 3 ∧ 0x10000 ≤ n ∧ n < 0x110000

/-- An encoding is a marked byte with the first digit, `lead`, and further bytes with the others,
`continuation`. -/
lemma exists_utf8EncodeChar_eq_cons (c : Char) :
    ∃ k, NeedsBytes k c.toNat ∧ String.utf8EncodeChar c =
      UInt8.ofNat (lead k c.toNat + mark k) :: continuation k c.toNat := by
  have hvalid : c.val.toNat < 0xd800 ∨ 0xdfff < c.val.toNat ∧ c.val.toNat < 0x110000 := c.valid
  have hnumber : c.val.toNat = c.toNat := rfl
  fun_cases String.utf8EncodeChar c with
  | case1 v h =>
    refine ⟨0, .inl ⟨rfl, by omega⟩, ?_⟩
    simp [continuation, lead, mark, v]
  | case2 v h₁ h₂ =>
    refine ⟨1, .inr (.inl ⟨rfl, by omega, by omega⟩), ?_⟩
    have hlead : c.toNat / 64 % 32 = c.toNat / 64 := by omega
    simp [continuation, lead, mark, hlead, v]
  | case3 v h₁ h₂ h₃ =>
    refine ⟨2, .inr (.inr (.inl ⟨rfl, by omega, by omega⟩)), ?_⟩
    have hlead : c.toNat / 4096 % 16 = c.toNat / 4096 := by omega
    simp [continuation, lead, mark, Nat.div_div_eq_div_mul, hlead, v]
  | case4 v h₁ h₂ h₃ =>
    refine ⟨3, .inr (.inr (.inr ⟨rfl, by omega, by omega⟩)), ?_⟩
    have hlead : c.toNat / 262144 % 8 = c.toNat / 262144 := by omega
    simp [continuation, lead, mark, Nat.div_div_eq_div_mul, hlead, v]

/-- A larger number `n` has a larger first byte, unless it has the same one and as many bytes. -/
lemma NeedsBytes.lead_lt {k l m n : Nat} (hm : NeedsBytes k m) (hn : NeedsBytes l n) (h : m < n) :
    lead k m + mark k < lead l n + mark l ∨ k = l ∧ lead k m = lead l n := by
  rcases hm with ⟨rfl, hm⟩ | ⟨rfl, hm⟩ | ⟨rfl, hm⟩ | ⟨rfl, hm⟩ <;>
    rcases hn with ⟨rfl, hn⟩ | ⟨rfl, hn⟩ | ⟨rfl, hn⟩ | ⟨rfl, hn⟩ <;>
    simp only [lead, mark, true_and] <;> omega

/-- A first byte is a byte. -/
lemma NeedsBytes.lead_lt_byte {k n : Nat} (h : NeedsBytes k n) : lead k n + mark k < 256 := by
  rcases h with ⟨rfl, h⟩ | ⟨rfl, h⟩ | ⟨rfl, h⟩ | ⟨rfl, h⟩ <;> simp only [lead, mark] <;> omega

/-- The encoding of the smaller character `c` is smaller, whatever follows. -/
lemma utf8EncodeChar_append_lt {c d : Char} (h : c.toNat < d.toNat) (rest rest' : List UInt8) :
    String.utf8EncodeChar c ++ rest < String.utf8EncodeChar d ++ rest' := by
  obtain ⟨k, hc, hencode⟩ := exists_utf8EncodeChar_eq_cons c
  obtain ⟨l, hd, hencode'⟩ := exists_utf8EncodeChar_eq_cons d
  rw [hencode, hencode', List.cons_append, List.cons_append,
    byte_cons_lt_byte_cons hc.lead_lt_byte hd.lead_lt_byte]
  rcases hc.lead_lt hd h with hlead | ⟨rfl, hlead⟩
  · exact .inl hlead
  · exact .inr ⟨by rw [hlead], continuation_append_lt h hlead rest rest'⟩

/-- The bytes of the text `c :: t` begin with those of `c`. -/
lemma encode_cons (c : Char) (t : Text) :
    encode (c :: t) = String.utf8EncodeChar c ++ encode t :=
  List.flatMap_cons

/-- A text that is not empty has bytes. -/
lemma nil_lt_encode_cons (d : Char) (b : Text) : [] < encode (d :: b) := by
  obtain ⟨k, -, hencode⟩ := exists_utf8EncodeChar_eq_cons d
  rw [encode_cons, hencode, List.cons_append]
  exact List.nil_lt_cons _ _

/-- Texts `a` and `b` are in the same order as their bytes. -/
lemma lex_toNat_iff (a b : Text) :
    List.Lex (fun c d : Char => c.toNat < d.toNat) a b ↔ encode a < encode b := by
  induction a generalizing b with
  | nil =>
    cases b with
    | nil => simp [encode]
    | cons d b => exact iff_of_true .nil (nil_lt_encode_cons d b)
  | cons c a ih =>
    cases b with
    | nil => simp [encode]
    | cons d b =>
      rw [List.cons_lex_cons_iff, ih, encode_cons, encode_cons]
      rcases Nat.lt_trichotomy c.toNat d.toNat with hlt | heq | hgt
      · exact iff_of_true (.inl hlt) (utf8EncodeChar_append_lt hlt _ _)
      · obtain rfl : c = d := Char.toNat_inj.mp heq
        rw [append_lt_append_iff]
        simp
      · have hnot := List.lt_asymm (utf8EncodeChar_append_lt hgt (encode b) (encode a))
        refine iff_of_false ?_ hnot
        rintro (hlt | ⟨rfl, -⟩)
        · exact Nat.lt_asymm hlt hgt
        · exact Nat.lt_irrefl _ hgt

end RouteStubs.Text
