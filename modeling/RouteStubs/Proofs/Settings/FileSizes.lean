import Mathlib
import RouteStubs.FileSize
import RouteStubs.Proofs.Text.Numerals
import RouteStubs.Proofs.Text.Spaces

/-!
# What file sizes are

A file size is written as an amount, perhaps white space, and a suffix for the unit. Reading finds
exactly the spelled sizes: an amount is decimal digits with perhaps a plus sign in front, its value
and its product with the unit are taken as exact numbers, and a size that does not fit is an error
and never a smaller number.

The unit is cut off before the amount is read, the longest suffix first. That no suffix is taken for
a part of another one rests on what stands in front of a suffix: a digit or white space, and none of
the letters of the units.
-/

namespace RouteStubs.FileSize

open Text

/-! ## Spelled sizes -/

/-- The suffixes and their units. -/
def suffixes : List (Text × Nat) :=
  [(lit "", 1), (lit "K", 2 ^ 10), (lit "KB", 2 ^ 10), (lit "M", 2 ^ 20), (lit "MB", 2 ^ 20),
    (lit "G", 2 ^ 30), (lit "GB", 2 ^ 30)]

/-- A number in decimal digits, perhaps with a plus sign in front. -/
structure Amount where
  signed : Bool
  digits : Text
  digits_ne_nil : digits ≠ []
  isDigit_of_mem : ∀ c ∈ digits, c.isDigit = true

namespace Amount

/-- The written form of the amount `a`. -/
def text (a : Amount) : Text :=
  if a.signed then '+' :: a.digits else a.digits

/-- The number that the amount `a` writes down. -/
def value (a : Amount) : Nat :=
  Nat.ofDigitChars 10 a.digits 0

lemma text_ne_nil (a : Amount) : a.text ≠ [] := by
  unfold text
  split
  · simp
  · exact a.digits_ne_nil

/-- The last character of an amount `a` is a digit. -/
lemma isDigit_getLast (a : Amount) : (a.text.getLast a.text_ne_nil).isDigit = true := by
  have hlast : a.text.getLast a.text_ne_nil = a.digits.getLast a.digits_ne_nil := by
    unfold text
    split
    · exact List.getLast_cons a.digits_ne_nil
    · rfl
  rw [hlast]
  exact a.isDigit_of_mem _ (List.getLast_mem _)

/-- No white space belongs to an amount `a`. -/
lemma isSpace_of_mem {a : Amount} {c : Char} (hc : c ∈ a.text) : isSpace c = false := by
  unfold text at hc
  split at hc
  · rcases List.mem_cons.mp hc with rfl | hc
    · exact isSpace_of_lt (by decide) (by decide)
    · exact isSpace_of_isDigit (a.isDigit_of_mem c hc)
  · exact isSpace_of_isDigit (a.isDigit_of_mem c hc)

end Amount

/-- A file size in parts: an amount, white space and a suffix. -/
structure Spelling where
  amount : Amount
  space : Text
  suffix : Text × Nat
  isBlank : IsBlank space
  mem_suffixes : suffix ∈ suffixes

namespace Spelling

/-- The written form of the size `s`. -/
def text (s : Spelling) : Text :=
  s.amount.text ++ s.space ++ s.suffix.1

/-- The size `s` in bytes, as an exact number. -/
def size (s : Spelling) : Nat :=
  s.amount.value * s.suffix.2

end Spelling

/-! ## Amounts -/

/-- The text `t` without a plus sign in front. -/
def unsigned (t : Text) : Text :=
  if t.head? == some '+' then t.tail else t

/-- The sign of an amount `a` is told apart from its digits. -/
lemma unsigned_text (a : Amount) : unsigned a.text = a.digits := by
  obtain ⟨signed, digits, hne, hdigits⟩ := a
  cases signed with
  | true => rfl
  | false =>
    obtain ⟨c, digits, rfl⟩ := List.exists_cons_of_ne_nil hne
    have hc : c ≠ '+' := by
      rintro rfl
      exact absurd (hdigits '+' List.mem_cons_self) (by decide)
    simp [unsigned, Amount.text, hc]

/-- A number `n` is what the digits behind the sign write down, if it is below `bound`. -/
lemma number?_eq_some {t : Text} {n : Nat} :
    number? t = some n ↔ unsigned t ≠ [] ∧ (unsigned t).all Char.isDigit = true ∧
      Nat.ofDigitChars 10 (unsigned t) 0 = n ∧ n < bound := by
  have hnumber : number? t = if (unsigned t).isEmpty then none
      else (numberIn? 10 (unsigned t)).filter fun n => decide (n < bound) := rfl
  rw [hnumber, numberIn?_ten]
  split_ifs with hempty hdigits
  · simp [List.isEmpty_iff.mp hempty]
  · rw [Option.filter_eq_some_iff, decide_eq_true_eq, Option.some_inj, ne_eq, ← List.isEmpty_iff]
    exact ⟨fun h => ⟨hempty, hdigits, h⟩, fun h => h.2.2⟩
  · simp [hdigits]

/-- The numbers that `number?` reads are the values of amounts. -/
lemma number?_eq_some_iff {t : Text} {n : Nat} :
    number? t = some n ↔ ∃ a : Amount, a.text = t ∧ a.value = n ∧ n < bound := by
  constructor
  · intro h
    obtain ⟨hne, hdigits, hvalue, hlt⟩ := number?_eq_some.mp h
    refine ⟨⟨t.head? == some '+', unsigned t, hne, List.all_eq_true.mp hdigits⟩, ?_, hvalue, hlt⟩
    cases hsign : t.head? == some '+' with
    | false => simp [Amount.text, unsigned, hsign]
    | true =>
      obtain ⟨rest, rfl⟩ := List.head?_eq_some_iff.mp (beq_iff_eq.mp hsign)
      rfl
  · rintro ⟨a, rfl, rfl, hlt⟩
    have hdigits : a.digits.all Char.isDigit = true := List.all_eq_true.mpr a.isDigit_of_mem
    rw [number?_eq_some, unsigned_text]
    exact ⟨a.digits_ne_nil, hdigits, rfl, hlt⟩

/-! ## Units -/

/-- The character `c` is no letter of a unit. -/
def NoUnitLetter (c : Char) : Prop := c ∉ lit "GMKB"

/-- Of the `units` that end a suffix, the first one in the list is the whole suffix. -/
lemma find?_units : ∀ suffix ∈ suffixes,
    units.find? (fun u => u.1.isSuffixOf suffix.1) =
      if suffix.1 = [] then none else some suffix := by
  decide

/-- A unit `u` does not reach beyond a character `c` that is none of its letters. -/
lemma isSuffixOf_append_cons (front : Text) {c : Char} (hc : NoUnitLetter c) {u : Text × Nat}
    (hu : u ∈ units) (t : Text) : u.1.isSuffixOf (front ++ c :: t) = u.1.isSuffixOf t := by
  have hletters : ∀ u ∈ units, (u.1.all fun d => (lit "GMKB").contains d) = true := by decide
  have hmem : c ∉ u.1 := fun h =>
    hc (List.contains_iff_mem.mp (List.all_eq_true.mp (hletters u hu) c h))
  rw [Bool.eq_iff_iff, List.isSuffixOf_iff_suffix, List.isSuffixOf_iff_suffix]
  constructor
  · intro h
    rcases List.suffix_or_suffix_of_suffix h (List.suffix_append front (c :: t)) with h | h
    · rcases List.suffix_cons_iff.mp h with h | h
      · exact absurd (h ▸ List.mem_cons_self) hmem
      · exact h
    · exact absurd (h.subset List.mem_cons_self) hmem
  · intro h
    exact (h.trans (List.suffix_cons c t)).trans (List.suffix_append front _)

/-- A `suffix` is cut off behind a text that does not end in a letter of a unit. -/
lemma splitUnit_append (front : Text) {c : Char} (hc : NoUnitLetter c) {suffix : Text × Nat}
    (hsuffix : suffix ∈ suffixes) :
    splitUnit (front ++ c :: suffix.1) = (front ++ [c], suffix.2) := by
  have hfind : units.find? (fun u => u.1.isSuffixOf (front ++ c :: suffix.1)) =
      if suffix.1 = [] then none else some suffix := by
    rw [← find?_units suffix hsuffix]
    exact List.find?_congr fun u hu => isSuffixOf_append_cons front hc hu suffix.1
  have hone : ∀ suffix ∈ suffixes, suffix.1 = [] → suffix.2 = 1 := by decide
  rw [splitUnit, hfind]
  split_ifs with hnil
  · rw [hnil, hone suffix hsuffix hnil]
  · have hfront : (front ++ c :: suffix.1).take
        ((front ++ c :: suffix.1).length - suffix.1.length) = front ++ [c] := by
      rw [List.append_cons, List.length_append, Nat.add_sub_cancel, List.take_left]
    exact Prod.ext hfront rfl

/-- What `splitUnit` cuts off is one of the `suffixes`. -/
lemma splitUnit_eq_append (t : Text) :
    ∃ suffix ∈ suffixes, t = (splitUnit t).1 ++ suffix.1 ∧ (splitUnit t).2 = suffix.2 := by
  unfold splitUnit
  split
  · next unit size hfind =>
    have hunit : ∀ u ∈ units, u ∈ suffixes := by decide
    have hsuffix : unit <:+ t := by
      simpa using List.find?_some hfind
    refine ⟨(unit, size), hunit _ (List.mem_of_find?_eq_some hfind), ?_, rfl⟩
    exact (List.suffix_iff_eq_append.mp hsuffix).symm
  · exact ⟨([], 1), by decide, by simp, rfl⟩

/-! ## Reading spelled sizes -/

/-- White space is no letter of a unit. -/
lemma noUnitLetter_of_isSpace {c : Char} (h : isSpace c = true) : NoUnitLetter c := by
  have hletters : ((lit "GMKB").all fun d => !isSpace d) = true := by decide +kernel
  intro hc
  exact absurd h (by simpa using List.all_eq_true.mp hletters c hc)

lemma noUnitLetter_of_isDigit {c : Char} (h : c.isDigit = true) : NoUnitLetter c := by
  have hletters : ((lit "GMKB").all fun d => !d.isDigit) = true := by decide +kernel
  intro hc
  exact absurd h (by simpa using List.all_eq_true.mp hletters c hc)

namespace Spelling

/-- What stands in front of the suffix of `s` does not end in a letter of a unit. -/
lemma exists_front (s : Spelling) :
    ∃ front c, NoUnitLetter c ∧ s.amount.text ++ s.space = front ++ [c] := by
  rcases List.eq_nil_or_concat s.space with hspace | ⟨space, c, hspace⟩
  · refine ⟨s.amount.text.dropLast, _, noUnitLetter_of_isDigit s.amount.isDigit_getLast, ?_⟩
    rw [hspace, List.append_nil, List.dropLast_append_getLast]
  · have hc : isSpace c = true := s.isBlank c (by simp [hspace])
    exact ⟨s.amount.text ++ space, c, noUnitLetter_of_isSpace hc, by simp [hspace]⟩

/-- The suffix of a spelled size `s` is cut off by `splitUnit`. -/
lemma splitUnit_text (s : Spelling) :
    splitUnit s.text = (s.amount.text ++ s.space, s.suffix.2) := by
  obtain ⟨front, c, hc, hfront⟩ := s.exists_front
  rw [text, hfront, ← splitUnit_append front hc s.mem_suffixes, ← List.append_cons]

/-- The amount of `s` is found in front of the white space. -/
lemma trim_amount (s : Spelling) : trim (s.amount.text ++ s.space) = s.amount.text := by
  have htrimmed : Trimmed s.amount.text :=
    { head := fun c hc => Amount.isSpace_of_mem (List.mem_of_mem_head? hc)
      last := fun c hc => Amount.isSpace_of_mem (List.mem_of_mem_getLast? hc) }
  have hnil : IsBlank [] := by simp [IsBlank]
  have h := trim_append s.amount.text hnil s.isBlank
  rwa [List.nil_append, trim_of_trimmed htrimmed] at h

end Spelling

/-- How a text `t` that spells the size `s` is read. -/
lemma parse_of_spelling {t : Text} (s : Spelling) (h : s.text = upper (trim t)) :
    parse t =
      if s.amount.value < bound then
        if s.size < bound then .ok s.size else .error (.tooLarge (upper (trim t)))
      else .error (.badNumber (s.amount.text ++ s.space)) := by
  simp only [parse, ← h, s.splitUnit_text, s.trim_amount]
  by_cases hvalue : s.amount.value < bound
  · have hnumber : number? s.amount.text = some s.amount.value :=
      number?_eq_some_iff.mpr ⟨s.amount, rfl, rfl, hvalue⟩
    rw [hnumber, if_pos hvalue]
    rfl
  · have hnumber : number? s.amount.text = none := by
      rw [Option.eq_none_iff_forall_ne_some]
      intro n hn
      obtain ⟨-, -, hsize, hlt⟩ := number?_eq_some.mp hn
      rw [unsigned_text] at hsize
      rw [Amount.value, hsize] at hvalue
      exact hvalue hlt
    rw [hnumber, if_neg hvalue]

/-- A text of which `number?` reads the number in front of the unit spells a size `s`. -/
lemma exists_spelling {t : Text} {n : Nat}
    (h : number? (trim (splitUnit (upper (trim t))).1) = some n) :
    ∃ s : Spelling, s.text = upper (trim t) ∧ s.amount.value = n ∧ n < bound := by
  obtain ⟨a, htext, hvalue, hlt⟩ := number?_eq_some_iff.mp h
  obtain ⟨suffix, hsuffix, hsplit, -⟩ := splitUnit_eq_append (upper (trim t))
  obtain ⟨front, space, hfront, hspace, hamount⟩ :=
    exists_append_trim (splitUnit (upper (trim t))).1
  rw [← htext] at hamount
  -- the text does not begin with white space, since the trimmed text does not
  have hnil : front = [] := by
    cases front with
    | nil => rfl
    | cons c front =>
      have hhead : c ∈ (upper (trim t)).head? := by
        rw [hsplit, ← hamount]
        rfl
      have hnot := head_upper_of_trimmed (trimmed_trim t) c hhead
      exact absurd (hfront c List.mem_cons_self) (by simp [hnot])
  refine ⟨⟨a, space, suffix, hspace, hsuffix⟩, ?_, hvalue, hlt⟩
  rw [hsplit, ← hamount, hnil]
  rfl

/-- A text that spells no size with an amount below `bound` has no number. -/
lemma parse_of_not_spelled {t : Text}
    (h : ¬∃ s : Spelling, s.text = upper (trim t) ∧ s.amount.value < bound) :
    parse t = .error (.badNumber (splitUnit (upper (trim t))).1) := by
  have hnumber : number? (trim (splitUnit (upper (trim t))).1) = none := by
    rw [Option.eq_none_iff_forall_ne_some]
    intro n hn
    obtain ⟨s, htext, rfl, hlt⟩ := exists_spelling hn
    exact h ⟨s, htext, hlt⟩
  simp only [parse, hnumber]

/-- A text `t` has one of the three results, as it is spelled. -/
lemma parse_cases (t : Text) :
    (∃ s : Spelling, s.text = upper (trim t) ∧ s.amount.value < bound ∧ s.size < bound ∧
      parse t = .ok s.size) ∨
    (∃ s : Spelling, s.text = upper (trim t) ∧ s.amount.value < bound ∧ bound ≤ s.size ∧
      parse t = .error (.tooLarge (upper (trim t)))) ∨
    (¬∃ s : Spelling, s.text = upper (trim t) ∧ s.amount.value < bound) ∧
      parse t = .error (.badNumber (splitUnit (upper (trim t))).1) := by
  by_cases hspelled : ∃ s : Spelling, s.text = upper (trim t) ∧ s.amount.value < bound
  · obtain ⟨s, htext, hvalue⟩ := hspelled
    have hparse := parse_of_spelling s htext
    rw [if_pos hvalue] at hparse
    rcases Nat.lt_or_ge s.size bound with hsize | hsize
    · rw [if_pos hsize] at hparse
      exact .inl ⟨s, htext, hvalue, hsize, hparse⟩
    · rw [if_neg (Nat.not_lt.mpr hsize)] at hparse
      exact .inr (.inl ⟨s, htext, hvalue, hsize, hparse⟩)
  · exact .inr (.inr ⟨hspelled, parse_of_not_spelled hspelled⟩)

/-- A size `v` that is read is the one that is spelled. -/
lemma size_of_parse {t : Text} {v : Nat} (s : Spelling) (htext : s.text = upper (trim t))
    (h : parse t = .ok v) : s.size = v := by
  rw [parse_of_spelling s htext] at h
  split_ifs at h
  exact Except.ok.inj h

/-- A text `t` is read as the size `v` exactly when it spells `v`, with an amount and a size below
`bound`. -/
lemma parse_eq_ok_iff {t : Text} {v : Nat} :
    parse t = .ok v ↔ ∃ s : Spelling, s.text = upper (trim t) ∧ s.amount.value < bound ∧
      s.size < bound ∧ s.size = v := by
  constructor
  · intro h
    rcases parse_cases t with ⟨s, htext, hvalue, hsize, -⟩ | ⟨s, -, -, -, hparse⟩ | ⟨-, hparse⟩
    · exact ⟨s, htext, hvalue, hsize, size_of_parse s htext h⟩
    · rw [hparse] at h
      contradiction
    · rw [hparse] at h
      contradiction
  · rintro ⟨s, htext, hvalue, hsize, rfl⟩
    rw [parse_of_spelling s htext, if_pos hvalue, if_pos hsize]

/-- A text `t` is too large exactly when it spells a size that is not below `bound`, with an amount
that is. -/
lemma parse_eq_tooLarge_iff {t : Text} :
    parse t = .error (.tooLarge (upper (trim t))) ↔ ∃ s : Spelling, s.text = upper (trim t) ∧
      s.amount.value < bound ∧ bound ≤ s.size := by
  constructor
  · intro h
    rcases parse_cases t with ⟨s, -, -, -, hparse⟩ | ⟨s, htext, hvalue, hsize, -⟩ | ⟨-, hparse⟩
    · rw [hparse] at h
      contradiction
    · exact ⟨s, htext, hvalue, hsize⟩
    · rw [hparse] at h
      exact absurd (Except.error.inj h) (by simp)
  · rintro ⟨s, htext, hvalue, hsize⟩
    rw [parse_of_spelling s htext, if_pos hvalue, if_neg (Nat.not_lt.mpr hsize)]

/-- A text `t` has no number exactly when it spells no size with an amount below `bound`. -/
lemma parse_eq_badNumber_iff {t : Text} :
    parse t = .error (.badNumber (splitUnit (upper (trim t))).1) ↔
      ¬∃ s : Spelling, s.text = upper (trim t) ∧ s.amount.value < bound := by
  constructor
  · intro h
    rcases parse_cases t with ⟨s, -, -, -, hparse⟩ | ⟨s, -, -, -, hparse⟩ | ⟨hspelled, -⟩
    · rw [hparse] at h
      contradiction
    · rw [hparse] at h
      exact absurd (Except.error.inj h) (by simp)
    · exact hspelled
  · exact parse_of_not_spelled

/-! ## What does not matter, and what does -/

/-- White space `front` and `back` around a size does not matter. -/
lemma parse_append (t : Text) {front back : Text} (hfront : IsBlank front) (hback : IsBlank back) :
    parse (front ++ t ++ back) = parse t := by
  simp only [parse, trim_append t hfront hback]

/-- The case of ASCII letters does not matter. -/
lemma parse_map_toLower (t : Text) : parse (t.map Char.toLower) = parse t := by
  simp only [parse, trim_map_toLower, upper_map_toLower]

/-- Sizes `s` and `s'` with one suffix are in the order of their amounts. -/
lemma Spelling.size_lt_size_iff {s s' : Spelling} (h : s.suffix = s'.suffix) :
    s.size < s'.size ↔ s.amount.value < s'.amount.value := by
  have hpos : ∀ suffix ∈ suffixes, 0 < suffix.2 := by decide
  rw [size, size, h, Nat.mul_lt_mul_right (hpos _ s'.mem_suffixes)]

/-- A text is read as a file size exactly when, without the white space around it and in upper case,
it spells one, with an amount and a size below 2⁶⁴, and the size is their exact product. A spelled
size that is too large is an error of its own, and every other text has no number. White space
around the text and the case of ASCII letters do not matter, and sizes with one suffix are in the
order of their amounts. -/
theorem parse_exactly_spelled_sizes (t : Text) :
    (∀ v, parse t = .ok v ↔ ∃ s : Spelling, s.text = upper (trim t) ∧
      s.amount.value < 2 ^ 64 ∧ s.size < 2 ^ 64 ∧ s.size = v) ∧
    (parse t = .error (.tooLarge (upper (trim t))) ↔ ∃ s : Spelling, s.text = upper (trim t) ∧
      s.amount.value < 2 ^ 64 ∧ 2 ^ 64 ≤ s.size) ∧
    (parse t = .error (.badNumber (splitUnit (upper (trim t))).1) ↔
      ¬∃ s : Spelling, s.text = upper (trim t) ∧ s.amount.value < 2 ^ 64) ∧
    (∀ front back, IsBlank front → IsBlank back → parse (front ++ t ++ back) = parse t) ∧
    (∀ t' : Text, t'.map Char.toLower = t.map Char.toLower → parse t' = parse t) ∧
    (∀ (t' : Text) (s s' : Spelling) (v v' : Nat), s.text = upper (trim t) →
      s'.text = upper (trim t') → s.suffix = s'.suffix → parse t = .ok v → parse t' = .ok v' →
      (v < v' ↔ s.amount.value < s'.amount.value)) := by
  have hbound : bound = 2 ^ 64 := rfl
  rw [← hbound]
  refine ⟨fun v => parse_eq_ok_iff, parse_eq_tooLarge_iff, parse_eq_badNumber_iff, ?_, ?_, ?_⟩
  · intro front back hfront hback
    exact parse_append t hfront hback
  · intro t' hcase
    rw [← parse_map_toLower, hcase, parse_map_toLower]
  · intro t' s s' v v' htext htext' hsuffix hparse hparse'
    rw [← size_of_parse s htext hparse, ← size_of_parse s' htext' hparse']
    exact Spelling.size_lt_size_iff hsuffix

/-- Twelve gigabytes, with a sign and a space. -/
def twelveGigabytes : Spelling where
  amount := ⟨true, lit "12", by decide, List.all_eq_true.mp (by decide)⟩
  space := lit " "
  suffix := (lit "GB", 2 ^ 30)
  isBlank := by decide +kernel
  mem_suffixes := by decide

/-- Sixteen gigabytes, with neither. -/
def sixteenGigabytes : Spelling where
  amount := ⟨false, lit "16", by decide, List.all_eq_true.mp (by decide)⟩
  space := []
  suffix := (lit "GB", 2 ^ 30)
  isBlank := by decide
  mem_suffixes := by decide

/-- Twelve gigabytes with white space around them and in another case, and sixteen gigabytes. -/
theorem parse_exactly_spelled_sizes_gigabytes :
    parse (lit "\t+12 gb\n") = .ok 12884901888 ∧ parse (lit "+12 Gb") = .ok 12884901888 ∧
      parse (lit "16gb") = .ok 17179869184 ∧ (12884901888 < 17179869184 ↔ 12 < 16) := by
  have htext : twelveGigabytes.text = upper (trim (lit "+12 gb")) := by decide +kernel
  have htext' : sixteenGigabytes.text = upper (trim (lit "16gb")) := by decide +kernel
  obtain ⟨hok, -, -, hspace, hcase, horder⟩ := parse_exactly_spelled_sizes (lit "+12 gb")
  have hparse : parse (lit "+12 gb") = .ok 12884901888 :=
    (hok _).mpr ⟨twelveGigabytes, htext, by decide +kernel, by decide +kernel, by decide +kernel⟩
  have hparse' : parse (lit "16gb") = .ok 17179869184 :=
    ((parse_exactly_spelled_sizes (lit "16gb")).1 _).mpr
      ⟨sixteenGigabytes, htext', by decide +kernel, by decide +kernel, by decide +kernel⟩
  refine ⟨?_, ?_, hparse', horder _ _ _ _ _ htext htext' rfl hparse hparse'⟩
  · rw [← hparse]
    exact hspace (lit "\t") (lit "\n") (by decide +kernel) (by decide +kernel)
  · rw [← hparse]
    exact hcase _ (by decide +kernel)

end RouteStubs.FileSize
