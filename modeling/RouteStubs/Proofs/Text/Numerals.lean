import RouteStubs.Proofs.Text.Spaces
import RouteStubs.Text.Numeral

/-!
# Digits and their numbers

The digits of a number are read one by one: if each character is a digit of the base, their values
make up the number, and otherwise there is none. A digit is determined by its value and by whether
it is a capital letter. The digits of the decimal system are those of ASCII.
-/

namespace RouteStubs.Text

/-- A number is made up of the values of its `digits`. -/
lemma numberIn?_eq_mapM (base : Nat) (digits : Text) :
    numberIn? base digits =
      (digits.mapM (digitIn? base)).map (·.foldl (fun value d => value * base + d) 0) := by
  have hfold : ∀ (digits : Text) (value? : Option Nat), digits.foldl (fun value? c => do
      let value ← value?
      let d ← digitIn? base c
      pure (value * base + d)) value? = value?.bind fun value =>
        (digits.mapM (digitIn? base)).map (·.foldl (fun value d => value * base + d) value) := by
    intro digits
    induction digits with
    | nil => intro value?; cases value? <;> rfl
    | cons c digits ih =>
      intro value?
      rw [List.foldl_cons, ih, List.mapM_cons]
      cases value? with
      | none => rfl
      | some value =>
        cases digitIn? base c with
        | none => rfl
        | some d => cases digits.mapM (digitIn? base) <;> rfl
  exact hfold digits (some 0)

/-- There is a number only if every character of `digits` is a digit. -/
lemma exists_digitIn?_of_numberIn? {base : Nat} {digits : Text} {n : Nat}
    (h : numberIn? base digits = some n) : ∀ c ∈ digits, ∃ d, digitIn? base c = some d := by
  rw [numberIn?_eq_mapM, Option.map_eq_some_iff] at h
  obtain ⟨values, hvalues, -⟩ := h
  induction digits generalizing values with
  | nil => simp
  | cons c digits ih =>
    rw [List.mapM_cons] at hvalues
    obtain ⟨d, hd, hvalues⟩ := Option.bind_eq_some_iff.mp hvalues
    obtain ⟨others, hothers, -⟩ := Option.bind_eq_some_iff.mp hvalues
    intro e he
    rcases List.mem_cons.mp he with rfl | he
    · exact ⟨d, hd⟩
    · exact ih others hothers e he

/-- A digit `c` is the one with its value `d`, which may be written as a capital letter. -/
lemma char_of_digitIn? {base : Nat} {c : Char} {d : Nat} (h : digitIn? base c = some d) :
    d < base ∧ (c = d.digitChar ∨ c = d.digitChar.toUpper) := by
  obtain ⟨hvalue, hlt⟩ := Option.filter_eq_some_iff.mp h
  have hascii : c.toNat < 128 := by
    have hnine : '9'.toNat < 128 := by decide
    have hf : 'f'.toNat < 128 := by decide
    have hF : 'F'.toNat < 128 := by decide
    unfold digitValue? at hvalue
    simp only [Bool.and_eq_true, decide_eq_true_eq] at hvalue
    split_ifs at hvalue with h h h
    all_goals exact Nat.lt_of_le_of_lt (UInt32.le_iff_toNat_le.mp h.2) (by assumption)
  have hall : ∀ n : Fin 128, ∀ d ∈ digitValue? (Char.ofNat n),
      Char.ofNat n = d.digitChar ∨ Char.ofNat n = d.digitChar.toUpper := by
    decide +kernel
  obtain ⟨n, rfl⟩ := exists_ofNat_of_lt hascii
  exact ⟨of_decide_eq_true hlt, hall n d hvalue⟩

/-- The digits of the decimal system are those of ASCII. -/
lemma digitIn?_ten (c : Char) :
    digitIn? 10 c = if c.isDigit then some (c.toNat - '0'.toNat) else none := by
  have hrange : c.isDigit = (decide ('0' ≤ c) && decide (c ≤ '9')) := rfl
  unfold digitIn? digitValue?
  rw [hrange]
  split_ifs with hdigit
  · have hnine : c.toNat ≤ '9'.toNat := by
      simp only [Bool.and_eq_true, decide_eq_true_eq] at hdigit
      exact UInt32.le_iff_toNat_le.mp hdigit.2
    have hlt : c.toNat - '0'.toNat < 10 := by
      have : '9'.toNat = 57 := rfl
      have : '0'.toNat = 48 := rfl
      omega
    rw [Option.filter_some, if_pos (decide_eq_true hlt)]
  · rw [Option.filter_some, if_neg (by simp)]
  · rw [Option.filter_some, if_neg (by simp)]
  · rfl

/-- Decimal `digits` write down a number, and nothing else does. -/
lemma numberIn?_ten (digits : Text) :
    numberIn? 10 digits =
      if digits.all Char.isDigit then some (Nat.ofDigitChars 10 digits 0) else none := by
  have hmapM : digits.mapM (digitIn? 10) =
      if digits.all Char.isDigit then some (digits.map fun c => c.toNat - '0'.toNat) else none := by
    induction digits with
    | nil => rfl
    | cons c digits ih =>
      rw [List.mapM_cons, ih, digitIn?_ten, List.all_cons]
      cases c.isDigit with
      | false => rfl
      | true => cases digits.all Char.isDigit <;> rfl
  rw [numberIn?_eq_mapM, hmapM]
  split
  · rw [Option.map_some, List.foldl_map, Nat.ofDigitChars_eq_foldl]
    simp only [Nat.mul_comm]
  · rfl

lemma isDigit_of_mem_decimal {n : Nat} {c : Char} (h : c ∈ decimal n) : c.isDigit = true :=
  Nat.isDigit_of_mem_toDigits (by decide) (by decide) h

/-- A number is determined by its decimal digits. -/
lemma decimal_injective : Function.Injective decimal := by
  intro m n h
  rw [← Nat.ofDigitChars_toDigits (b := 10) (n := m) (by decide) (by decide),
    ← Nat.ofDigitChars_toDigits (b := 10) (n := n) (by decide) (by decide)]
  exact congrArg (Nat.ofDigitChars 10 · 0) h

end RouteStubs.Text
