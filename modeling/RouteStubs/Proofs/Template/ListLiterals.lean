import RouteStubs.Proofs.Syntax.ClosingQuotes
import RouteStubs.Proofs.Template.StubLines

/-!
# Reading lists back

What is written for a list determines the list, and it determines where the literal ends. The marks
between the members and at the end of the list may well occur inside the members, but there they are
within quotes: each member ends at the first quote that is not escaped, and only then does the next
mark count.
-/

namespace RouteStubs

/-- The literal `quote x` of a text determines the text and what follows the literal. -/
lemma Syntax.StringLiteral.quote_append_inj {x y t u : Text} (h : quote x ++ t = quote y ++ u) :
    x = y ∧ t = u := by
  rw [quote_append, quote_append, List.cons_inj_right] at h
  have hsplit := splitAtQuote?_quoted x t
  rw [h, splitAtQuote?_quoted y u] at hsplit
  simp only [Option.some.injEq, Prod.mk.injEq] at hsplit
  obtain ⟨hbody, rfl⟩ := hsplit
  refine ⟨?_, rfl⟩
  rw [← resolve_flatMap_quoteChar x, ← hbody, resolve_flatMap_quoteChar]

namespace Template

open Syntax.StringLiteral

/-- The members of a list behind the first one, each with the mark in front of it, and the end of
the list. -/
def furtherItems : List Text → Text
  | [] => ['\x7d']
  | item :: items => ',' :: ' ' :: (quote item ++ furtherItems items)

/-- A list with members is written as its first `item`, the others and the end. -/
lemma listLiteral_cons (item : Text) (items : List Text) :
    listLiteral (item :: items) = lit "[]string\x7b" ++ (quote item ++ furtherItems items) := by
  have hitems : List.intercalate (lit ", ") ((item :: items).map quote) ++ lit "\x7d" =
      quote item ++ furtherItems items := by
    induction items generalizing item with
    | nil =>
      rw [List.map_singleton, List.intercalate_singleton]
      rfl
    | cons next items ih =>
      rw [List.map_cons, List.map_cons, List.intercalate_cons_cons, ← List.map_cons,
        List.append_assoc, ih, List.append_assoc]
      rfl
  rw [← hitems, ← List.append_assoc]
  rfl

/-- The members `xs` behind the first one are told from each other and from what follows the list.
-/
lemma furtherItems_append_inj {xs ys : List Text} {t u : Text}
    (h : furtherItems xs ++ t = furtherItems ys ++ u) : xs = ys ∧ t = u := by
  induction xs generalizing ys with
  | nil =>
    cases ys with
    | nil => exact ⟨rfl, List.append_cancel_left h⟩
    | cons y ys => simp [furtherItems] at h
  | cons x xs ih =>
    cases ys with
    | nil => simp [furtherItems] at h
    | cons y ys =>
      simp only [furtherItems, List.cons_append, List.append_assoc, List.cons.injEq, true_and] at h
      obtain ⟨rfl, hrest⟩ := quote_append_inj h
      obtain ⟨rfl, rfl⟩ := ih hrest
      exact ⟨rfl, rfl⟩

/-- An empty list is told from all others by what follows the opening brace: the quote of a first
member, or the end. -/
lemma listLiteral_nil_append_ne (y : Text) (ys : List Text) (t u : Text) :
    listLiteral [] ++ t ≠ listLiteral (y :: ys) ++ u := by
  intro h
  have hnil : listLiteral [] = lit "[]string\x7b" ++ ['\x7d'] := rfl
  rw [hnil, listLiteral_cons, List.append_assoc, List.append_assoc] at h
  have hrest := List.append_cancel_left h
  simp [quote] at hrest

/-- The literal `listLiteral xs` of a list determines the list and what follows the literal. -/
lemma listLiteral_append_inj {xs ys : List Text} {t u : Text}
    (h : listLiteral xs ++ t = listLiteral ys ++ u) : xs = ys ∧ t = u := by
  cases xs with
  | nil =>
    cases ys with
    | nil => exact ⟨rfl, List.append_cancel_left h⟩
    | cons y ys => exact absurd h (listLiteral_nil_append_ne y ys t u)
  | cons x xs =>
    cases ys with
    | nil => exact absurd h.symm (listLiteral_nil_append_ne x xs u t)
    | cons y ys =>
      simp only [listLiteral_cons, List.append_assoc, List.append_cancel_left_eq] at h
      obtain ⟨rfl, hrest⟩ := quote_append_inj h
      obtain ⟨rfl, rfl⟩ := furtherItems_append_inj hrest
      exact ⟨rfl, rfl⟩

/-- What `listWrites` writes for a list can be read in one way only: if the same text begins with
two lists, then the lists are the same, and so is what follows them. -/
theorem listWrites_append_eq_iff (xs ys : List Text) (t u : Text) :
    (listWrites xs).flatten ++ t = (listWrites ys).flatten ++ u ↔ xs = ys ∧ t = u := by
  rw [flatten_listWrites, flatten_listWrites]
  constructor
  · exact listLiteral_append_inj
  · rintro ⟨rfl, rfl⟩
    rfl

end Template

end RouteStubs
