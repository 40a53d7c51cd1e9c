import Mathlib.Tactic.SplitIfs
import RouteStubs.Proofs.Text.Utf8
import RouteStubs.Syntax.StringLiteral

/-!
# Quoted texts

The literal of a text is one token, whatever the text holds and whatever comes behind the literal,
and it stands for the text. Both follow from what happens at a single quoted character: the scanner
passes over it in one step, and it is resolved to the bytes of the character.
-/

namespace RouteStubs.Syntax

open StringLiteral

namespace StringLiteral

/-- A control character is written with four hexadecimal digits, which are its number. -/
lemma hexadecimal_control : ∀ n < 0xa0,
    (Text.hexadecimal 4 n).length = 4 ∧ (Text.hexadecimal 4 n).all Token.isHexDigit = true ∧
      Text.numberIn? 16 (Text.hexadecimal 4 n) = some n := by
  decide +kernel

/-- The digits of a control character stand in a single line. -/
lemma newline_not_mem_hexadecimal {n : Nat} (h : n < 0xa0) : '\n' ∉ Text.hexadecimal 4 n := by
  intro hmem
  have hdigit := List.all_eq_true.mp (hexadecimal_control n h).2.1 '\n' hmem
  exact absurd hdigit (by decide)

/-- The forms that `quoteChar` gives a character: a backslash and a mark or letter for it, a numeric
escape, or the character itself. -/
lemma quoteChar_cases (c : Char) :
    (∃ d, quoteChar c = ['\\', d] ∧ simpleEscape? d = some c ∧ d ≠ 'x' ∧ d ≠ 'u' ∧ d ≠ 'U' ∧
        d ≠ Token.nul) ∨
      (c.toNat < 0xa0 ∧ quoteChar c = '\\' :: 'u' :: Text.hexadecimal 4 c.toNat) ∨
      (quoteChar c = [c] ∧ c ≠ '"' ∧ c ≠ '\\' ∧ c ≠ '\n' ∧ c ≠ Token.nul) := by
  unfold quoteChar
  split_ifs with h₁ h₂ h₃ h₄ h₅ h₆
  · exact .inl ⟨'"', rfl, by rw [h₁]; decide⟩
  · exact .inl ⟨'\\', rfl, by rw [h₂]; decide⟩
  · exact .inl ⟨'n', rfl, by rw [h₃]; decide⟩
  · exact .inl ⟨'r', rfl, by rw [h₄]; decide⟩
  · exact .inl ⟨'t', rfl, by rw [h₅]; decide⟩
  · refine .inr (.inl ⟨?_, rfl⟩)
    simp only [isControl, Bool.or_eq_true, Bool.and_eq_true, decide_eq_true_eq] at h₆
    omega
  · refine .inr (.inr ⟨rfl, h₁, h₂, h₃, fun h => h₆ ?_⟩)
    rw [h]
    decide

/-- The literal `quote t` of a text is a single line, whatever the text holds. -/
lemma newline_not_mem_quote (t : Text) : '\n' ∉ quote t := by
  have hchar (c : Char) : '\n' ∉ quoteChar c := by
    rcases quoteChar_cases c with ⟨d, hq, hd, -⟩ | ⟨hc, hq⟩ | ⟨hq, -, -, hn, -⟩
    · have hne : d ≠ '\n' := by
        rintro rfl
        simp [simpleEscape?] at hd
      simp [hq, hne.symm]
    · simp [hq, newline_not_mem_hexadecimal hc]
    · simp [hq, hn.symm]
  simp [quote, hchar]

end StringLiteral

/-- The literal `quote k` of a text in front of other text, from its opening quote on. -/
lemma StringLiteral.quote_append (k rest : Text) :
    quote k ++ rest = '"' :: (k.flatMap quoteChar ++ '"' :: rest) := by
  simp [quote]

/-! ## The literal is one token -/

namespace Token

/-- By `hexDigits` the hexadecimal `digits` are passed over. -/
lemma hexDigits_append {digits : Text} (h : digits.all isHexDigit = true) (rest : Text) :
    hexDigits digits.length (digits ++ rest) = some rest := by
  induction digits with
  | nil => rfl
  | cons d digits ih =>
    rw [List.all_cons, Bool.and_eq_true] at h
    simp [hexDigits, h.1, ih h.2]

/-- A quoted character `c` is passed over by `afterString` in one step. -/
lemma afterString_quoteChar (b : Char) (bound : Text) (c : Char) (rest : Text) :
    afterString (b :: bound) (quoteChar c ++ rest) = afterString bound rest := by
  rcases quoteChar_cases c with ⟨d, hq, -, hx, hu, hU, hnul⟩ | ⟨hc, hq⟩ | ⟨hq, hq', hb, hn, hnul⟩
  · rw [hq]
    simp [afterString, afterStringEscape, hnul]
  · obtain ⟨hlength, hall, -⟩ := hexadecimal_control c.toNat hc
    have hdigits := hexDigits_append hall rest
    rw [hlength] at hdigits
    rw [hq]
    simp [afterString, afterStringEscape, hdigits]
  · rw [hq]
    simp [afterString, hnul]

/-- The first quote that is not escaped behind the quoted characters of `k` is the closing one. -/
lemma afterString_quoted {bound : Text} (k rest : Text) (h : k.length < bound.length) :
    afterString bound (k.flatMap quoteChar ++ '"' :: rest) = some rest := by
  induction k generalizing bound with
  | nil =>
    cases bound with
    | nil => simp at h
    | cons b bound => simp [afterString]
  | cons c k ih =>
    cases bound with
    | nil => simp at h
    | cons b bound =>
      rw [List.flatMap_cons, List.append_assoc, afterString_quoteChar]
      exact ih (by simpa using h)

/-- A quoted character has at least one character. -/
lemma length_le_length_flatMap_quoteChar (k : Text) : k.length ≤ (k.flatMap quoteChar).length := by
  induction k with
  | nil => simp
  | cons c k ih =>
    have hc : 0 < (quoteChar c).length := by
      rcases quoteChar_cases c with ⟨d, hq, -⟩ | ⟨-, hq⟩ | ⟨hq, -⟩ <;> simp [hq]
    rw [List.flatMap_cons, List.length_append, List.length_cons]
    omega

/-- The literal `quote k` of a text is a token, whatever follows it. -/
lemma interpretedString_quote (k rest : Text) :
    interpretedString (quote k ++ rest) = some (quote k, rest) := by
  have hk := length_le_length_flatMap_quoteChar k
  have hafter : afterString (k.flatMap quoteChar ++ '"' :: rest)
      (k.flatMap quoteChar ++ '"' :: rest) = some rest :=
    afterString_quoted k rest (by rw [List.length_append, List.length_cons]; omega)
  have htaken : taken ('"' :: (k.flatMap quoteChar ++ '"' :: rest)) rest = (quote k, rest) := by
    have hlength : ('"' :: (k.flatMap quoteChar ++ '"' :: rest)).length - rest.length =
        (quote k).length := by
      simp [quote]
      omega
    rw [taken, hlength, ← quote_append, List.take_left]
  rw [quote_append, interpretedString, hafter, Option.map_some, htaken]

end Token

/-! ## The literal stands for the text -/

namespace StringLiteral

/-- The `digits` in front of other text are read by themselves. -/
lemma digitsAt?_append {base count : Nat} {digits : Text} (h : digits.length = count)
    (rest : Text) : digitsAt? base count (digits ++ rest) = Text.numberIn? base digits := by
  have htake : (digits ++ rest).take count = digits := List.take_left' h
  rw [digitsAt?, htake, if_pos h]

/-- The digits of a control character `n` are read back, whatever follows them. -/
lemma digitsAt?_control {n : Nat} (h : n < 0xa0) (rest : Text) :
    digitsAt? 16 4 (Text.hexadecimal 4 n ++ rest) = some n := by
  obtain ⟨hlength, -, hnumber⟩ := hexadecimal_control n h
  rw [digitsAt?_append hlength, hnumber]

/-- A character `c` is found by its number. -/
lemma scalar?_toNat (c : Char) : scalar? c.toNat = some c := by
  rw [scalar?, if_pos (show c.toNat.isValidChar from c.valid), Char.ofNat_toNat]

/-- The escape of a control character `c`. -/
lemma escape?_control {c : Char} (h : c.toNat < 0xa0) (rest : Text) :
    escape? ('u' :: Text.hexadecimal 4 c.toNat ++ rest) = some ⟨.char c, 5⟩ := by
  rw [List.cons_append, escape?]
  simp [simpleEscape?, Token.isOctalDigit, digitsAt?_control h, scalar?_toNat]

/-- An escape `t` is resolved by `resolveBytes`, and the search goes on behind it. -/
lemma resolveBytes_escape {t rest : Text} {d : Denoted} {width : Nat}
    (h : escape? (t ++ rest) = some ⟨d, width⟩) (hwidth : t.length = width) :
    resolveBytes ('\\' :: t ++ rest) = d.bytes ++ resolveBytes rest := by
  rw [List.cons_append, resolveBytes, if_pos rfl, h]
  dsimp only
  rw [List.drop_left' hwidth]

/-- A quoted character `c` is resolved to its bytes. -/
lemma resolveBytes_quoteChar (c : Char) (rest : Text) :
    resolveBytes (quoteChar c ++ rest) = Text.encode [c] ++ resolveBytes rest := by
  rcases quoteChar_cases c with ⟨d, hq, hd, -⟩ | ⟨hc, hq⟩ | ⟨hq, -, hb, -⟩
  · have hescape : escape? ([d] ++ rest) = some ⟨.char c, 1⟩ := by
      rw [List.singleton_append, escape?, hd]
    rw [hq]
    exact resolveBytes_escape hescape rfl
  · have hlength : ('u' :: Text.hexadecimal 4 c.toNat).length = 5 := by
      rw [List.length_cons, (hexadecimal_control c.toNat hc).1]
    rw [hq]
    exact resolveBytes_escape (escape?_control hc rest) hlength
  · rw [hq, List.cons_append, List.nil_append, resolveBytes, if_neg hb]

/-- By `resolve` the quoting of `k` is undone. -/
lemma resolve_flatMap_quoteChar (k : Text) : resolve (k.flatMap quoteChar) = k := by
  have hbytes : resolveBytes (k.flatMap quoteChar) = Text.encode k := by
    induction k with
    | nil => simp [resolveBytes, Text.encode]
    | cons c k ih =>
      rw [List.flatMap_cons, resolveBytes_quoteChar, ih]
      simp [Text.encode]
  rw [resolve, hbytes, Text.decodeLossy_encode]

/-- The literal `quote k` of a text stands for the text by `value?`. -/
lemma value?_quote {n : Node} {k : Text} (hkind : n.kind = .interpretedStringLiteral)
    (htext : n.text = quote k) : value? n = some k := by
  have hbetween : between? '"' (quote k) = some (k.flatMap quoteChar) := by
    simp [between?, quote]
  rw [value?, hkind, htext]
  simp only [hbetween, Option.map_some, resolve_flatMap_quoteChar]

end StringLiteral

end RouteStubs.Syntax
