import Mathlib.Tactic.Lemma
import RouteStubs.Text.Utf8

/-!
# Reading back encoded texts

The bytes of a text are divided into the encodings of its characters, whatever the characters are,
so that decoding gives back the text. Bytes are given by their numbers here, since the rules of the
encoding are rules about numbers.
-/

namespace RouteStubs.Text

/-! ## Bytes by their numbers -/

/-- A number `n` below 256 is the number of its byte. -/
lemma toNat_byte {n : Nat} (h : n < 256) : (UInt8.ofNat n).toNat = n := by
  rw [UInt8.toNat_ofNat']
  exact Nat.mod_eq_of_lt h

/-- A byte is compared by its number `n`, from below. -/
lemma le_byte {k : UInt8} {n : Nat} (h : n < 256) : k ≤ UInt8.ofNat n ↔ k.toNat ≤ n := by
  rw [UInt8.le_iff_toNat_le, toNat_byte h]

/-- A byte is compared by its number `n`, from above. -/
lemma byte_le {k : UInt8} {n : Nat} (h : n < 256) : UInt8.ofNat n ≤ k ↔ n ≤ k.toNat := by
  rw [UInt8.le_iff_toNat_le, toNat_byte h]

/-- A byte is compared by its number `n`, strictly. -/
lemma byte_lt {k : UInt8} {n : Nat} (h : n < 256) : UInt8.ofNat n < k ↔ n < k.toNat := by
  rw [UInt8.lt_iff_toNat_lt, toNat_byte h]

/-- A byte with a number `n` from 128 on is no character by itself. -/
lemma not_byte_lt {n : Nat} (h : n < 256) (h' : 0x80 ≤ n) : ¬ UInt8.ofNat n < 0x80 := by
  rw [byte_lt h]
  exact Nat.not_lt.mpr h'

/-- A byte with the number `n` is `k` exactly if `n` is the number of `k`. -/
lemma byte_eq {k : UInt8} {n : Nat} (h : n < 256) : UInt8.ofNat n = k ↔ n = k.toNat := by
  rw [← UInt8.toNat_inj, toNat_byte h]

/-- The numbers `n` of the bytes that go on with an encoding. -/
lemma isContinuation_byte {n : Nat} (h : 0x80 ≤ n) (h' : n ≤ 0xbf) :
    isContinuation (UInt8.ofNat n) = true := by
  have hn : n < 256 := by omega
  simp only [isContinuation, Bool.and_eq_true, decide_eq_true_eq, le_byte hn, byte_le hn]
  exact ⟨h, h'⟩

/-- A byte `n` that goes on with an encoding may follow the first one, `m`, unless the encoding
would be too long, a surrogate, or beyond the last character. -/
lemma mayFollow_byte {m n : Nat} (hm : m < 256) (h : 0x80 ≤ n) (h' : n ≤ 0xbf)
    (he0 : m = 0xe0 → 0xa0 ≤ n) (hed : m = 0xed → n ≤ 0x9f) (hf0 : m = 0xf0 → 0x90 ≤ n)
    (hf4 : m = 0xf4 → n ≤ 0x8f) : mayFollow (UInt8.ofNat m) (UInt8.ofNat n) = true := by
  have hn : n < 256 := by omega
  simp only [mayFollow, byte_eq hm]
  split
  · next hlead => simp [le_byte hn, byte_le hn, he0 hlead, h']
  · split
    · next hlead => simp [le_byte hn, byte_le hn, hed hlead, h]
    · split
      · next hlead => simp [le_byte hn, byte_le hn, hf0 hlead, h']
      · split
        · next hlead => simp [le_byte hn, byte_le hn, hf4 hlead, h]
        · exact isContinuation_byte h h'

/-! ## Encodings of one to four bytes -/

/-- An encoding of a single byte `m`. -/
lemma piece_one {m : Nat} (rest : List UInt8) (hm : m < 0x80) :
    piece (UInt8.ofNat m) rest = ⟨some (Char.ofNat m), 0⟩ := by
  have hm' : m < 256 := by omega
  have hlt : UInt8.ofNat m < 0x80 := (byte_lt hm').mpr hm
  simp only [piece, hlt, if_true, toNat_byte hm']

/-- An encoding of two bytes `m` and `n`. -/
lemma piece_two {m n : Nat} (rest : List UInt8) (hm : 0xc2 ≤ m ∧ m ≤ 0xdf)
    (hn : 0x80 ≤ n ∧ n ≤ 0xbf) :
    piece (UInt8.ofNat m) (UInt8.ofNat n :: rest) =
      ⟨some (Char.ofNat (m % 32 * 64 + n % 64)), 1⟩ := by
  have hm' : m < 256 := by omega
  have hn' : n < 256 := by omega
  have hone : ¬ UInt8.ofNat m < 0x80 := not_byte_lt hm' (by omega)
  have htwo : (0xc2 ≤ UInt8.ofNat m && UInt8.ofNat m ≤ 0xdf) = true := by
    simp [le_byte hm', byte_le hm', hm]
  simp only [piece, hone, htwo, if_false, if_true, isContinuation_byte hn.1 hn.2, scalar,
    List.foldl_cons, List.foldl_nil, toNat_byte hm', toNat_byte hn']

/-- An encoding of three bytes `m`, `n` and `k`. -/
lemma piece_three {m n k : Nat} (rest : List UInt8) (hm : 0xe0 ≤ m ∧ m ≤ 0xef)
    (hn : 0x80 ≤ n ∧ n ≤ 0xbf) (hk : 0x80 ≤ k ∧ k ≤ 0xbf) (he0 : m = 0xe0 → 0xa0 ≤ n)
    (hed : m = 0xed → n ≤ 0x9f) :
    piece (UInt8.ofNat m) (UInt8.ofNat n :: UInt8.ofNat k :: rest) =
      ⟨some (Char.ofNat ((m % 16 * 64 + n % 64) * 64 + k % 64)), 2⟩ := by
  have hm' : m < 256 := by omega
  have hn' : n < 256 := by omega
  have hk' : k < 256 := by omega
  have hone : ¬ UInt8.ofNat m < 0x80 := not_byte_lt hm' (by omega)
  have htwo : (0xc2 ≤ UInt8.ofNat m && UInt8.ofNat m ≤ 0xdf) = false := by
    simp [le_byte hm', byte_le hm']
    omega
  have hthree : (0xe0 ≤ UInt8.ofNat m && UInt8.ofNat m ≤ 0xef) = true := by
    simp [le_byte hm', byte_le hm', hm]
  have hfollows : mayFollow (UInt8.ofNat m) (UInt8.ofNat n) = true :=
    mayFollow_byte hm' hn.1 hn.2 he0 hed (by omega) (by omega)
  simp only [piece, hone, htwo, hthree, hfollows, isContinuation_byte hk.1 hk.2, scalar, if_false,
    if_true, Bool.not_true, Bool.false_eq_true, List.foldl_cons, List.foldl_nil, toNat_byte hm',
    toNat_byte hn', toNat_byte hk']

/-- An encoding of four bytes `m`, `n`, `k` and `l`. -/
lemma piece_four {m n k l : Nat} (rest : List UInt8) (hm : 0xf0 ≤ m ∧ m ≤ 0xf4)
    (hn : 0x80 ≤ n ∧ n ≤ 0xbf) (hk : 0x80 ≤ k ∧ k ≤ 0xbf) (hl : 0x80 ≤ l ∧ l ≤ 0xbf)
    (hf0 : m = 0xf0 → 0x90 ≤ n) (hf4 : m = 0xf4 → n ≤ 0x8f) :
    piece (UInt8.ofNat m) (UInt8.ofNat n :: UInt8.ofNat k :: UInt8.ofNat l :: rest) =
      ⟨some (Char.ofNat (((m % 8 * 64 + n % 64) * 64 + k % 64) * 64 + l % 64)), 3⟩ := by
  have hm' : m < 256 := by omega
  have hn' : n < 256 := by omega
  have hk' : k < 256 := by omega
  have hl' : l < 256 := by omega
  have hone : ¬ UInt8.ofNat m < 0x80 := not_byte_lt hm' (by omega)
  have htwo : (0xc2 ≤ UInt8.ofNat m && UInt8.ofNat m ≤ 0xdf) = false := by
    simp [le_byte hm', byte_le hm']
    omega
  have hthree : (0xe0 ≤ UInt8.ofNat m && UInt8.ofNat m ≤ 0xef) = false := by
    simp [le_byte hm', byte_le hm']
    omega
  have hfour : (0xf0 ≤ UInt8.ofNat m && UInt8.ofNat m ≤ 0xf4) = true := by
    simp [le_byte hm', byte_le hm', hm]
  have hfollows : mayFollow (UInt8.ofNat m) (UInt8.ofNat n) = true :=
    mayFollow_byte hm' hn.1 hn.2 (by omega) (by omega) hf0 hf4
  simp only [piece, hone, htwo, hthree, hfour, hfollows, isContinuation_byte hk.1 hk.2,
    isContinuation_byte hl.1 hl.2, scalar, if_false, if_true, Bool.not_true, Bool.false_eq_true,
    List.foldl_cons, List.foldl_nil, toNat_byte hm', toNat_byte hn', toNat_byte hk', toNat_byte hl']

/-! ## Encoded characters and texts -/

/-- The first byte `a` of the encoding of `c`, with what follows it, is read as `c`, and all bytes
of the encoding belong to it. -/
lemma piece_utf8EncodeChar (c : Char) (rest : List UInt8) :
    ∃ a more, String.utf8EncodeChar c = a :: more ∧
      piece a (more ++ rest) = ⟨some c, more.length⟩ := by
  have hvalid : c.val.toNat < 0xd800 ∨ 0xdfff < c.val.toNat ∧ c.val.toNat < 0x110000 := c.valid
  have hchar {n : Nat} (h : n = c.val.toNat) : Char.ofNat n = c := by
    rw [h]
    exact Char.ofNat_toNat c
  fun_cases String.utf8EncodeChar c with
  | case1 v h =>
    refine ⟨_, _, rfl, ?_⟩
    rw [List.nil_append, piece_one _ (by omega), hchar rfl]
    rfl
  | case2 v h₁ h₂ =>
    refine ⟨_, _, rfl, ?_⟩
    rw [List.cons_append, List.nil_append, piece_two _ (by omega) (by omega), hchar (by omega)]
    rfl
  | case3 v h₁ h₂ h₃ =>
    refine ⟨_, _, rfl, ?_⟩
    rw [List.cons_append, List.cons_append, List.nil_append,
      piece_three _ (by omega) (by omega) (by omega) (by omega) (by omega), hchar (by omega)]
    rfl
  | case4 v h₁ h₂ h₃ =>
    refine ⟨_, _, rfl, ?_⟩
    rw [List.cons_append, List.cons_append, List.cons_append, List.nil_append,
      piece_four _ (by omega) (by omega) (by omega) (by omega) (by omega) (by omega),
      hchar (by omega)]
    rfl

/-- The encoding of a character `c` in front of other bytes is the first piece. -/
lemma gatherPieces_utf8EncodeChar (gathered : List (Option Char)) (c : Char) (rest : List UInt8) :
    gatherPieces gathered (String.utf8EncodeChar c ++ rest) =
      gatherPieces (some c :: gathered) rest := by
  obtain ⟨a, more, hencode, hpiece⟩ := piece_utf8EncodeChar c rest
  rw [hencode, List.cons_append, gatherPieces, hpiece, List.drop_left]

/-- The `pieces` of an encoded text are its characters. -/
lemma pieces_encode (t : Text) : pieces (encode t) = t.map some := by
  have hgather (gathered : List (Option Char)) :
      gatherPieces gathered (encode t) = (t.map some).reverse ++ gathered := by
    induction t generalizing gathered with
    | nil => simp [encode, gatherPieces]
    | cons c t ih =>
      have ih' := ih (some c :: gathered)
      rw [encode] at ih' ⊢
      rw [List.flatMap_cons, gatherPieces_utf8EncodeChar, ih']
      simp
  rw [pieces, hgather, List.append_nil, List.reverse_reverse]

/-- By `decodeLossy` an encoded text is decoded to itself. -/
lemma decodeLossy_encode (t : Text) : decodeLossy (encode t) = t := by
  simp [decodeLossy, pieces_encode, Function.comp_def]

/-- By `decode?` an encoded text is decoded to itself. -/
lemma decode?_encode (t : Text) : decode? (encode t) = some t := by
  simp [decode?, pieces_encode, List.all_map, List.filterMap_map]

end RouteStubs.Text
