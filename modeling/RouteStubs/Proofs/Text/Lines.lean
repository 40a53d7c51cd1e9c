import Mathlib.Tactic.Lemma
import RouteStubs.Text.Numeral

/-!
# Lines

The lines of a text are what stands between its line feeds, and a text can be put together from
lines each of which is ended by a line feed. The lines of such a text are those it was put together
from, as long as these have no line feeds of their own, and one more that is empty.
-/

namespace RouteStubs.Text

/-- The lines of the text `t`. -/
def lines (t : Text) : List Text := t.splitOn '\n'

/-- The text of the lines `ls`, with a line feed after each. -/
def unlines (ls : List Text) : Text := ls.flatMap (· ++ ['\n'])

@[simp] lemma unlines_nil : unlines [] = [] := rfl

@[simp] lemma unlines_cons (l : Text) (ls : List Text) :
    unlines (l :: ls) = l ++ '\n' :: unlines ls := by
  simp [unlines]

@[simp] lemma unlines_append (ls ls' : List Text) :
    unlines (ls ++ ls') = unlines ls ++ unlines ls' :=
  List.flatMap_append

/-- A text has at least one line. -/
lemma lines_ne_nil (t : Text) : lines t ≠ [] :=
  List.splitOn_ne_nil _ _

/-- A text without line feeds is a single line. -/
lemma lines_of_not_mem {t : Text} (h : '\n' ∉ t) : lines t = [t] :=
  List.splitOn_eq_singleton h

/-- A line feed between `t` and `u` separates their lines. -/
lemma lines_append_newline (t u : Text) : lines (t ++ '\n' :: u) = lines t ++ lines u :=
  List.splitOn_append_cons_self t u

/-- The lines of a text that `unlines` has put together. -/
lemma lines_unlines (ls : List Text) : lines (unlines ls) = ls.flatMap lines ++ [[]] := by
  induction ls with
  | nil => exact lines_of_not_mem List.not_mem_nil
  | cons l ls ih => rw [unlines_cons, lines_append_newline, ih, List.flatMap_cons, List.append_assoc]

/-- Lines `ls` without line feeds of their own are read back. -/
lemma lines_unlines_of_forall {ls : List Text} (h : ∀ l ∈ ls, '\n' ∉ l) :
    lines (unlines ls) = ls ++ [[]] := by
  have hsame : ls.flatMap lines = ls := by
    induction ls with
    | nil => rfl
    | cons l ls ih =>
      rw [List.flatMap_cons, lines_of_not_mem (h l List.mem_cons_self),
        ih fun l' hl' => h l' (List.mem_cons_of_mem _ hl')]
      rfl
  rw [lines_unlines, hsame]

/-- What stands in front of a text `t`, without line feeds, is added to its first line. -/
lemma lines_append_of_not_mem {a : Text} (ha : '\n' ∉ a) (t : Text) :
    lines (a ++ t) = (lines t).modifyHead (a ++ ·) := by
  induction a with
  | nil =>
    rw [List.nil_append]
    cases lines t <;> rfl
  | cons c a ih =>
    have hc : (c == '\n') = false := by
      have hne : c ≠ '\n' := fun h => ha (h ▸ List.mem_cons_self)
      simpa using hne
    have hsplit : lines (c :: (a ++ t)) = (lines (a ++ t)).modifyHead (c :: ·) := by
      rw [lines, List.splitOn_cons_eq_if_modifyHead, hc]
      rfl
    rw [List.cons_append, hsplit, ih fun h => ha (List.mem_cons_of_mem _ h)]
    cases lines t <;> rfl

/-- A text `t` is a single line, or its last line `l` stands behind a line feed. -/
lemma not_mem_or_exists_last_line (t : Text) :
    '\n' ∉ t ∨ ∃ u l, t = u ++ '\n' :: l ∧ '\n' ∉ l := by
  induction t with
  | nil => exact .inl List.not_mem_nil
  | cons c t ih =>
    rcases ih with hplain | ⟨u, l, rfl, hl⟩
    · by_cases hc : c = '\n'
      · exact .inr ⟨[], t, by rw [hc]; rfl, hplain⟩
      · exact .inl (by simp [hplain, Ne.symm hc])
    · exact .inr ⟨c :: u, l, rfl, hl⟩

/-! ## Texts that are single lines -/

/-- Texts `ts` without line feeds are put together to one without any. -/
lemma newline_not_mem_intercalate {separator : Text} (hseparator : '\n' ∉ separator)
    {ts : List Text} (h : ∀ t ∈ ts, '\n' ∉ t) : '\n' ∉ List.intercalate separator ts := by
  induction ts with
  | nil => simp [List.intercalate]
  | cons t ts ih =>
    have ht := h t List.mem_cons_self
    cases ts with
    | nil => simpa using ht
    | cons u ts =>
      have hothers := ih fun v hv => h v (List.mem_cons_of_mem _ hv)
      rw [List.intercalate_cons_cons]
      simp [ht, hseparator, hothers]

/-- A number is written without line feeds. -/
lemma newline_not_mem_decimal (n : Nat) : '\n' ∉ decimal n := by
  intro hmem
  have hdigit := Nat.isDigit_of_mem_toDigits (by omega) (by omega) hmem
  exact absurd hdigit (by decide)

end RouteStubs.Text
