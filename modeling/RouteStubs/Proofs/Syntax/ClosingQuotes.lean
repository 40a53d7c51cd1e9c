import RouteStubs.Proofs.Syntax.Quoting

/-!
# Closing quotes

A literal ends at the first quote that is not escaped, where a backslash takes the character behind
it out of consideration, whatever the two of them stand for. Read in this way, the literal of a text
ends with its last character, wherever the quotes and backslashes of the text are, and every escape
that is met on the way is one that can be resolved.
-/

namespace RouteStubs.Syntax.StringLiteral

/-- What stands before the first quote that is not escaped, and what stands behind it. -/
def splitAtQuote? : Text → Option (Text × Text)
  | [] => none
  | '"' :: rest => some ([], rest)
  | '\\' :: c :: rest => (splitAtQuote? rest).map fun p => ('\\' :: c :: p.1, p.2)
  | c :: rest => (splitAtQuote? rest).map fun p => (c :: p.1, p.2)

/-- What follows each of the backslashes that are met when each takes the next character out of
consideration. -/
def escapesMet : Text → List Text
  | [] => []
  | ['\\'] => [[]]
  | '\\' :: c :: rest => (c :: rest) :: escapesMet rest
  | _ :: rest => escapesMet rest

section

variable {t : Text} (h : ∀ c ∈ t, c ≠ '"' ∧ c ≠ '\\') (rest : Text)
include h

/-- Characters `t` that are neither quotes nor backslashes are passed over by `splitAtQuote?`. -/
lemma splitAtQuote?_plain_append :
    splitAtQuote? (t ++ rest) = (splitAtQuote? rest).map fun p => (t ++ p.1, p.2) := by
  induction t with
  | nil => simp
  | cons c t ih =>
    obtain ⟨hquote, hbackslash⟩ := h c List.mem_cons_self
    have ih' := ih fun d hd => h d (List.mem_cons_of_mem _ hd)
    simp [splitAtQuote?, hbackslash, ih', Function.comp_def]

/-- No escapes are met by `escapesMet` among characters `t` that are neither quotes nor backslashes.
-/
lemma escapesMet_plain_append : escapesMet (t ++ rest) = escapesMet rest := by
  induction t with
  | nil => rfl
  | cons c t ih =>
    obtain ⟨-, hbackslash⟩ := h c List.mem_cons_self
    have ih' := ih fun d hd => h d (List.mem_cons_of_mem _ hd)
    simp [escapesMet, hbackslash, ih']

end

/-- The digits of a control character `n` are neither quotes nor backslashes. -/
lemma ne_of_mem_hexadecimal {n : Nat} (h : n < 0xa0) :
    ∀ c ∈ Text.hexadecimal 4 n, c ≠ '"' ∧ c ≠ '\\' := by
  intro c hc
  have hdigit := List.all_eq_true.mp (hexadecimal_control n h).2.1 c hc
  constructor
  · rintro rfl
    exact absurd hdigit (by decide)
  · rintro rfl
    exact absurd hdigit (by decide)

/-- A quoted character `c` does not end the literal. -/
lemma splitAtQuote?_quoteChar (c : Char) (rest : Text) :
    splitAtQuote? (quoteChar c ++ rest) =
      (splitAtQuote? rest).map fun p => (quoteChar c ++ p.1, p.2) := by
  rcases quoteChar_cases c with ⟨d, hq, -⟩ | ⟨hc, hq⟩ | ⟨hq, hquote, hbackslash, -⟩
  · rw [hq]
    rfl
  · rw [hq]
    simp [splitAtQuote?, splitAtQuote?_plain_append (ne_of_mem_hexadecimal hc), Function.comp_def]
  · rw [hq]
    exact splitAtQuote?_plain_append (by simp [hquote, hbackslash]) rest

/-- The escape of a quoted character `c` can be resolved, if those behind it can. -/
lemma isSome_escape?_quoteChar (c : Char) {rest : Text}
    (h : ∀ e ∈ escapesMet rest, (escape? e).isSome = true) :
    ∀ e ∈ escapesMet (quoteChar c ++ rest), (escape? e).isSome = true := by
  rcases quoteChar_cases c with ⟨d, hq, hd, -⟩ | ⟨hc, hq⟩ | ⟨hq, hquote, hbackslash, -⟩
  · have hescape : escape? (d :: rest) = some ⟨.char c, 1⟩ := by rw [escape?, hd]
    rw [hq]
    simpa [escapesMet, hescape] using h
  · have hescape := escape?_control hc rest
    rw [List.cons_append] at hescape
    rw [hq]
    simpa [escapesMet, hescape, escapesMet_plain_append (ne_of_mem_hexadecimal hc)] using h
  · rw [hq, escapesMet_plain_append (by simp [hquote, hbackslash])]
    exact h

/-- The first quote behind the quoted characters of `s` that is not escaped is the one that follows
them. -/
lemma splitAtQuote?_quoted (s rest : Text) :
    splitAtQuote? (s.flatMap quoteChar ++ '"' :: rest) = some (s.flatMap quoteChar, rest) := by
  induction s with
  | nil => rfl
  | cons c s ih =>
    rw [List.flatMap_cons, List.append_assoc, splitAtQuote?_quoteChar, ih]
    rfl

/-- All escapes of the quoted characters of `s` can be resolved. -/
lemma isSome_escape?_quoted (s : Text) :
    ∀ e ∈ escapesMet (s.flatMap quoteChar), (escape? e).isSome = true := by
  induction s with
  | nil => simp [escapesMet]
  | cons c s ih =>
    rw [List.flatMap_cons]
    exact isSome_escape?_quoteChar c ih

/-- The literal `quote s` of a text is complete, and resolving it undoes it. It is a single line
between two quotes, of which the second is the first one that is not escaped, so that it is one
token whatever follows it. Each of its escapes can be resolved, and what stands between the quotes
stands for `s`. -/
theorem quote_complete_and_undone (s : Text) :
    '\n' ∉ quote s ∧ ∃ body, quote s = '"' :: body ++ ['"'] ∧
      (∀ rest, splitAtQuote? (body ++ '"' :: rest) = some (body, rest) ∧
        Token.interpretedString (quote s ++ rest) = some (quote s, rest)) ∧
      (∀ e ∈ escapesMet body, (escape? e).isSome = true) ∧
      between? '"' (quote s) = some body ∧ resolve body = s := by
  refine ⟨newline_not_mem_quote s, s.flatMap quoteChar, rfl, fun rest => ⟨?_, ?_⟩, ?_, ?_, ?_⟩
  · exact splitAtQuote?_quoted s rest
  · exact Token.interpretedString_quote s rest
  · exact isSome_escape?_quoted s
  · simp [between?, quote]
  · exact resolve_flatMap_quoteChar s

end RouteStubs.Syntax.StringLiteral
