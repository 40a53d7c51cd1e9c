import Mathlib
import RouteStubs.Text.Letter
import RouteStubs.Text.Space
import RouteStubs.Text.Uppercase

/-!
# White space around texts

Trimming takes the white space at both ends of a text away and nothing else. What is left neither
begins nor ends with white space, and a text of which this is true stays as it is.

No letter and no numeral is white space, and no character has white space in its upper-case form. So
a name or a number is found as it is between the white space around it, and a trimmed text stays
trimmed when it is put in upper case.
-/

namespace RouteStubs.Text

/-! ## Trimming -/

/-- The text `t` neither begins nor ends with white space. -/
structure Trimmed (t : Text) : Prop where
  head : ∀ c ∈ t.head?, isSpace c = false
  last : ∀ c ∈ t.getLast?, isSpace c = false

/-- The text `t` is made of white space. -/
def IsBlank (t : Text) : Prop := ∀ c ∈ t, isSpace c = true

instance (t : Text) : Decidable (IsBlank t) :=
  decidable_of_iff (t.all isSpace = true) List.all_eq_true

/-- A `Trimmed` text stays as it is. -/
lemma trim_of_trimmed {t : Text} (h : Trimmed t) : trim t = t := by
  have hleft : trimLeft t = t := by
    cases t with
    | nil => rfl
    | cons c t =>
      have hc : isSpace c = false := h.head c rfl
      simp [trimLeft, hc]
  have hright : trimRight t = t := by
    refine List.rdropWhile_eq_self_iff.mpr fun hne => ?_
    simp [h.last _ (List.getLast_mem_getLast? hne)]
  rw [trim, hleft, hright]

/-- White space `back` at the end does not matter for `trimRight`. -/
lemma trimRight_append (t : Text) {back : Text} (hback : IsBlank back) :
    trimRight (t ++ back) = trimRight t := by
  rw [trimRight, trimRight, List.reverse_append, List.dropWhile_append_of_pos]
  intro c hc
  exact hback c (List.mem_reverse.mp hc)

/-- White space `front` and `back` around a text does not matter for `trim`. -/
lemma trim_append (t : Text) {front back : Text} (hfront : IsBlank front) (hback : IsBlank back) :
    trim (front ++ t ++ back) = trim t := by
  have hleft : trimLeft (front ++ t ++ back) = trimLeft (t ++ back) := by
    rw [trimLeft, List.append_assoc, List.dropWhile_append_of_pos hfront, trimLeft]
  rw [trim, hleft, trimLeft, List.dropWhile_append, ← trimLeft]
  split
  · next hnil =>
    have hnil' : trimLeft t = [] := List.isEmpty_iff.mp hnil
    have hblank : back.dropWhile isSpace = [] := List.dropWhile_eq_nil_iff.mpr hback
    rw [hblank, trim, hnil']
  · rw [trimRight_append _ hback, trim]

/-- A text `t` is `trim t` between white space. -/
lemma exists_append_trim (t : Text) :
    ∃ front back, IsBlank front ∧ IsBlank back ∧ front ++ trim t ++ back = t := by
  refine ⟨t.takeWhile isSpace, (trimLeft t).rtakeWhile isSpace, ?_, ?_, ?_⟩
  · intro c hc
    exact List.mem_takeWhile_imp hc
  · intro c hc
    exact List.mem_takeWhile_imp (List.mem_reverse.mp hc)
  · have hright : trim t ++ (trimLeft t).rtakeWhile isSpace = trimLeft t :=
      List.rdropWhile_append_rtakeWhile
    rw [List.append_assoc, hright, trimLeft, List.takeWhile_append_dropWhile]

/-- What `trim` leaves has no white space at its ends. -/
lemma trimmed_trim (t : Text) : Trimmed (trim t) where
  head := by
    intro c hc
    obtain ⟨back, hback⟩ : trim t <+: trimLeft t := List.rdropWhile_prefix isSpace (trimLeft t)
    have hfirst : (trimLeft t).head? = some c := by
      rw [← hback, List.head?_append, hc]
      rfl
    have hnot := List.head?_dropWhile_not isSpace t
    rw [← trimLeft, hfirst] at hnot
    exact hnot
  last := by
    intro c hc
    have hne : (trimLeft t).rdropWhile isSpace ≠ [] := by
      intro hnil
      have hnil' : trim t = [] := hnil
      simp [hnil'] at hc
    have hlast : ((trimLeft t).rdropWhile isSpace).getLast hne = c :=
      Option.some.inj ((List.getLast?_eq_some_getLast hne).symm.trans hc)
    have hnot := List.rdropWhile_last_not isSpace (trimLeft t) hne
    rwa [hlast, Bool.not_eq_true] at hnot

/-! ## Characters that are no white space -/

/-- No interval of `ranges` meets one of `others`. -/
def CodeRanges.apart (ranges others : CodeRanges) : Bool :=
  ranges.toList.all fun r => others.toList.all fun o => r.2 < o.1 || o.2 < r.1

/-- A character is not in both of two sets of `ranges` that lie apart. -/
lemma CodeRanges.covers_eq_false {ranges others : CodeRanges} (h : ranges.apart others = true)
    {c : Char} (hc : ranges.covers c = true) : others.covers c = false := by
  obtain ⟨r, hr, hin⟩ := Array.any_eq_true'.mp hc
  rw [← Bool.not_eq_true, covers, Array.any_eq_true']
  rintro ⟨o, ho, hin'⟩
  have hapart := List.all_eq_true.mp (List.all_eq_true.mp h r hr.val) o ho.val
  simp only [Bool.and_eq_true, Bool.or_eq_true, decide_eq_true_eq] at hin hin' hapart
  omega

/-- White space by its numbers. -/
lemma isSpace_iff {c : Char} : isSpace c = true ↔
    0x9 ≤ c.toNat ∧ c.toNat ≤ 0xd ∨ c.toNat = 0x20 ∨ c.toNat = 0x85 ∨ c.toNat = 0xa0 ∨
      c.toNat = 0x1680 ∨ 0x2000 ≤ c.toNat ∧ c.toNat ≤ 0x200a ∨ c.toNat = 0x2028 ∨
      c.toNat = 0x2029 ∨ c.toNat = 0x202f ∨ c.toNat = 0x205f ∨ c.toNat = 0x3000 := by
  simp only [isSpace, spaceRanges, CodeRanges.covers, List.any_toArray, List.any_cons, List.any_nil,
    Bool.or_eq_true, Bool.and_eq_true, decide_eq_true_eq, Bool.false_eq_true, or_false]
  omega

/-- The marks, digits and letters of ASCII are no white space. -/
lemma isSpace_of_lt {c : Char} (h : 0x20 < c.toNat) (h' : c.toNat < 0x80) : isSpace c = false := by
  rw [← Bool.not_eq_true, isSpace_iff]
  omega

lemma isSpace_of_isDigit {c : Char} (h : c.isDigit = true) : isSpace c = false := by
  simp only [Char.isDigit, Bool.and_eq_true, decide_eq_true_eq, ge_iff_le, UInt32.le_iff_toNat_le]
    at h
  exact isSpace_of_lt (Nat.lt_of_lt_of_le (by decide) h.1) (Nat.lt_of_le_of_lt h.2 (by decide))

lemma isSpace_of_isAlpha {c : Char} (h : c.isAlpha = true) : isSpace c = false := by
  simp only [Char.isAlpha, Char.isUpper, Char.isLower, Bool.or_eq_true, Bool.and_eq_true,
    decide_eq_true_eq, ge_iff_le, UInt32.le_iff_toNat_le] at h
  rcases h with h | h
  all_goals
    exact isSpace_of_lt (Nat.lt_of_lt_of_le (by decide) h.1) (Nat.lt_of_le_of_lt h.2 (by decide))

lemma isSpace_of_isLetter {c : Char} (h : isLetter c = true) : isSpace c = false := by
  simp only [isLetter, Bool.or_eq_true, Bool.and_eq_true] at h
  rcases h with h | h
  · exact isSpace_of_isAlpha h
  · have hapart : alphabeticRanges.apart spaceRanges = true := by decide +kernel
    exact CodeRanges.covers_eq_false hapart h.2

lemma isSpace_of_isNumeral {c : Char} (h : isNumeral c = true) : isSpace c = false := by
  simp only [isNumeral, Bool.or_eq_true, Bool.and_eq_true] at h
  rcases h with h | h
  · exact isSpace_of_isDigit h
  · have hapart : numericRanges.apart spaceRanges = true := by decide +kernel
    exact CodeRanges.covers_eq_false hapart h.2

/-! ## Upper case -/

/-- The characters of ASCII by their numbers. -/
lemma exists_ofNat_of_lt {c : Char} (h : c.toNat < 128) : ∃ n : Fin 128, Char.ofNat n = c :=
  ⟨⟨c.toNat, h⟩, Char.ofNat_toNat c⟩

/-- A code point that is moved past all white space by `shift` becomes none. -/
lemma isSpace_ofNat_shifted {first last n : Nat} {shift : Int} (h : first ≤ n) (h' : n ≤ last)
    (hapart : spaceRanges.toList.all (fun o =>
      decide ((last : Int) + shift < o.1) || decide ((o.2 : Int) < first + shift)) = true) :
    isSpace (Char.ofNat (n + shift).toNat) = false := by
  rw [← Bool.not_eq_true, isSpace, CodeRanges.covers, Array.any_eq_true']
  rintro ⟨o, ho, hin⟩
  have hone := List.all_eq_true.mp hapart o ho.val
  have hpos : ∀ o ∈ spaceRanges, 0 < o.1 := by decide
  have hlow := hpos o ho
  simp only [Bool.and_eq_true, Bool.or_eq_true, decide_eq_true_eq] at hin hone
  -- a number that belongs to no character is read as the null character
  rw [Char.toNat_ofNat] at hin
  split_ifs at hin
  all_goals omega

/-- A character `d` of the upper case of `c` is no white space if `c` is none. -/
lemma isSpace_of_mem_upperChar {c d : Char} (hc : isSpace c = false) (hd : d ∈ upperChar c) :
    isSpace d = false := by
  unfold upperChar at hd
  split_ifs at hd with hascii
  · obtain rfl := List.mem_singleton.mp hd
    have hall : ∀ n : Fin 128, isSpace (Char.ofNat n) = false →
        isSpace (Char.ofNat n).toUpper = false := by
      decide +kernel
    obtain ⟨n, rfl⟩ := exists_ofNat_of_lt hascii
    exact hall n hc
  · split at hd
    · next e he =>
      have hall : (upperExpansions.toList.all fun e =>
          e.2.all fun n => !isSpace (Char.ofNat n)) = true := by
        decide +kernel
      obtain ⟨n, hn, rfl⟩ := List.mem_map.mp hd
      have hone := List.all_eq_true.mp hall e (Array.mem_of_find?_eq_some he).val
      simpa using List.all_eq_true.mp hone n hn
    · split at hd
      · next first last step shift hrun =>
        have hall : (upperRuns.toList.all fun r => spaceRanges.toList.all fun o =>
            decide ((r.2.1 : Int) + r.2.2.2 < o.1) ||
              decide ((o.2 : Int) < r.1 + r.2.2.2)) = true := by
          decide +kernel
        obtain rfl := List.mem_singleton.mp hd
        have hone := List.all_eq_true.mp hall _ (Array.mem_of_find?_eq_some hrun).val
        have hin := Array.find?_some hrun
        simp only [Bool.and_eq_true, decide_eq_true_eq] at hin
        exact isSpace_ofNat_shifted hin.1.1 hin.1.2 hone
      · obtain rfl := List.mem_singleton.mp hd
        exact hc

/-- No character disappears in upper case. -/
lemma upperChar_ne_nil (c : Char) : upperChar c ≠ [] := by
  unfold upperChar
  split_ifs
  · simp
  · split
    · next e he =>
      have hall : (upperExpansions.toList.all fun e => !e.2.isEmpty) = true := by decide +kernel
      have hone := List.all_eq_true.mp hall e (Array.mem_of_find?_eq_some he).val
      simpa using hone
    · split
      all_goals simp

/-- A `Trimmed` text does not begin with white space in upper case. -/
lemma head_upper_of_trimmed {t : Text} (h : Trimmed t) :
    ∀ c ∈ (upper t).head?, isSpace c = false := by
  cases t with
  | nil => simp [upper]
  | cons c t =>
    intro d hd
    rw [upper, List.flatMap_cons, List.head?_append_of_ne_nil _ (upperChar_ne_nil c)] at hd
    exact isSpace_of_mem_upperChar (h.head c rfl) (List.mem_of_mem_head? hd)

/-! ## The case of ASCII letters -/

/-- Only characters of ASCII are changed by `Char.toLower`. -/
lemma toLower_of_le {c : Char} (h : 128 ≤ c.toNat) : c.toLower = c := by
  apply Char.toLower_eq_of_not_isUpper
  intro hupper
  simp only [Char.isUpper, decide_eq_true_eq, ge_iff_le, UInt32.le_iff_toNat_le] at hupper
  exact absurd (Nat.le_trans h hupper.2) (by decide)

/-- White space has no case. -/
lemma isSpace_toLower (c : Char) : isSpace c.toLower = isSpace c := by
  rcases Nat.lt_or_ge c.toNat 128 with h | h
  · have hall : ∀ n : Fin 128, isSpace (Char.ofNat n).toLower = isSpace (Char.ofNat n) := by
      decide +kernel
    obtain ⟨n, rfl⟩ := exists_ofNat_of_lt h
    exact hall n
  · rw [toLower_of_le h]

/-- The upper case of `c` does not depend on the case of `c`, if this is an ASCII letter. -/
lemma upperChar_toLower (c : Char) : upperChar c.toLower = upperChar c := by
  rcases Nat.lt_or_ge c.toNat 128 with h | h
  · have hall : ∀ n : Fin 128, upperChar (Char.ofNat n).toLower = upperChar (Char.ofNat n) := by
      decide +kernel
    obtain ⟨n, rfl⟩ := exists_ofNat_of_lt h
    exact hall n
  · rw [toLower_of_le h]

lemma upper_map_toLower (t : Text) : upper (t.map Char.toLower) = upper t := by
  rw [upper, List.flatMap_map]
  exact List.flatMap_congr fun c _ => upperChar_toLower c

/-- White space around a text is found by `trim` whatever the case of its letters. -/
lemma trim_map_toLower (t : Text) : trim (t.map Char.toLower) = (trim t).map Char.toLower := by
  have hcomp : isSpace ∘ Char.toLower = isSpace := funext isSpace_toLower
  rw [trim, trim, trimLeft, trimRight, trimLeft, trimRight, List.dropWhile_map, hcomp,
    ← List.map_reverse, List.dropWhile_map, hcomp, ← List.map_reverse]

end RouteStubs.Text
