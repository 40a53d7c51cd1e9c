import Mathlib.Data.List.TakeWhile
import RouteStubs.Proofs.Syntax.Positions
import RouteStubs.Syntax.Reading

/-!
# Texts that are read in one way

Most texts have a single reading. `Reads p t rest P` says so: where `t` remains, `p` has one
reading, which has no weight, leaves `rest`, and gives a value with the property `P`. `Fails p t`
says that there is no reading at all. Neither depends on how many characters stand before the place,
so both are about texts and not about places.

The lemmas follow the ways in which parsers are built, and a text is read by going through it from
the left: each lemma takes the part of the text that the parser passes over off its front.
-/

namespace RouteStubs.Syntax

open Node

/-! ## Words -/

namespace Token

/-- The text is a single word: a character that can begin one, and then characters that can go on
with one. -/
def IsWord : Text → Prop
  | [] => False
  | c :: cs => Text.isIdentifierStart c = true ∧ cs.all Text.isIdentifierContinue = true

instance : ∀ w : Text, Decidable (IsWord w)
  | [] => inferInstanceAs (Decidable False)
  | _ :: _ => inferInstanceAs (Decidable (_ ∧ _))

/-- No word goes on at the front of the text `t`. -/
def Stops (t : Text) : Prop :=
  ∀ c ∈ t.head?, Text.isIdentifierContinue c = false

/-- A word ends in front of a character `c` that goes on with none. -/
lemma stops_cons {c : Char} (h : Text.isIdentifierContinue c = false) (t : Text) :
    Stops (c :: t) := by
  simpa [Stops] using h

/-- The first character `c` of a word, and the others. -/
lemma IsWord.exists_cons {w : Text} (h : IsWord w) :
    ∃ c cs, w = c :: cs ∧ Text.isIdentifierStart c = true ∧
      ∀ d ∈ cs, Text.isIdentifierContinue d = true := by
  cases w with
  | nil => exact h.elim
  | cons c cs => exact ⟨c, cs, rfl, h.1, List.all_eq_true.mp h.2⟩

/-- A word `w` is taken off the front of a text up to where it stops. -/
lemma word_append {w t : Text} (h : IsWord w) (ht : Stops t) : word (w ++ t) = some (w, t) := by
  obtain ⟨c, cs, rfl, hc, hcs⟩ := h.exists_cons
  have hstop : t.takeWhile Text.isIdentifierContinue = [] ∧
      t.dropWhile Text.isIdentifierContinue = t := by
    cases t with
    | nil => exact ⟨rfl, rfl⟩
    | cons d t =>
      have hd : Text.isIdentifierContinue d = false := ht d rfl
      exact ⟨List.takeWhile_cons_of_neg (by simp [hd]), List.dropWhile_cons_of_neg (by simp [hd])⟩
  rw [List.cons_append, word, if_pos hc, List.takeWhile_append_of_pos hcs,
    List.dropWhile_append_of_pos hcs, hstop.1, hstop.2, List.append_nil]

/-- A text that begins with a character `c` of no word has no word in front. -/
lemma word_cons_eq_none {c : Char} (h : Text.isIdentifierStart c = false) (t : Text) :
    word (c :: t) = none := by
  simp [word, h]

/-- A character that begins words is none of those that do not. -/
lemma ne_of_isIdentifierStart {c d : Char} (hc : Text.isIdentifierStart c = true)
    (hd : Text.isIdentifierStart d = false) : c ≠ d := by
  rintro rfl
  rw [hd] at hc
  cases hc

/-- A word `w` has a first character, and this is none of the characters `c` that can begin no word.
-/
lemma IsWord.head?_ne {w : Text} (h : IsWord w) {c : Char} (hc : Text.isIdentifierStart c = false)
    (t : Text) : (w ++ t).head? ≠ some c := by
  obtain ⟨d, ds, rfl, hd, -⟩ := h.exists_cons
  rw [List.cons_append, List.head?_cons, ne_eq, Option.some.injEq]
  exact ne_of_isIdentifierStart hd hc

end Token

open Token

/-! ## Blanks -/

/-- From `t` on, only blanks stand in front of `u`, and there no comment begins. -/
def Clear (s : Spacing) (t u : Text) : Prop :=
  ∀ o, ∃ o', Cursor.gap ⟨o, t⟩ s = ([], ⟨o', u⟩) ∧ o' + u.length = o + t.length

/-- Passing over a blank `b` is the first step of passing over all of them. -/
lemma Cursor.skipBlanks_cons {s : Spacing} {b : Char} (hb : s.isBlank b = true) (o : Nat)
    (t : Text) : Cursor.skipBlanks ⟨o, b :: t⟩ s = Cursor.skipBlanks ⟨o + 1, t⟩ s := by
  simp only [Cursor.skipBlanks, Cursor.past, List.takeWhile_cons_of_pos hb,
    List.dropWhile_cons_of_pos hb, List.length_cons, Cursor.mk.injEq, and_true]
  omega

/-- Without comments the `gap` consists of blanks. -/
lemma Cursor.gap_of_comment_eq_none {s : Spacing} {o : Nat} {t : Text}
    (h : Token.comment (Cursor.skipBlanks ⟨o, t⟩ s).rest = none) :
    Cursor.gap ⟨o, t⟩ s = ([], Cursor.skipBlanks ⟨o, t⟩ s) := by
  cases t with
  | nil => rfl
  | cons c t => simp only [Cursor.gap, Cursor.gapFrom, h]

/-- A text `t` that begins with a token is `Clear` up to there. -/
lemma clear_of_head {s : Spacing} {t : Text}
    (h : ∀ c ∈ t.head?, s.isBlank c = false ∧ c ≠ '/') : Clear s t t := by
  intro o
  refine ⟨o, ?_, rfl⟩
  have hskip : Cursor.skipBlanks ⟨o, t⟩ s = ⟨o, t⟩ := by
    cases t with
    | nil => rfl
    | cons c t =>
      have hc : s.isBlank c = false := (h c rfl).1
      simp [Cursor.skipBlanks, Cursor.past, hc]
  rw [Cursor.gap_of_comment_eq_none, hskip]
  rw [hskip]
  cases t with
  | nil => rfl
  | cons c t =>
    have hc : c ≠ '/' := (h c rfl).2
    simp [Token.comment, hc]

/-- A blank `b` in front of blanks. -/
lemma Clear.blank {s : Spacing} {t u : Text} {b : Char} (h : Clear s t u)
    (hb : s.isBlank b = true) : Clear s (b :: t) u := by
  intro o
  obtain ⟨o', hgap, ho'⟩ := h (o + 1)
  have hcomment : Token.comment (Cursor.skipBlanks ⟨o + 1, t⟩ s).rest = none := by
    cases t with
    | nil => rfl
    | cons c t =>
      simp only [Cursor.gap, Cursor.gapFrom] at hgap
      split at hgap
      · assumption
      · simp at hgap
  rw [Cursor.gap_of_comment_eq_none hcomment] at hgap
  refine ⟨o', ?_, by rw [ho', List.length_cons]; omega⟩
  rw [Cursor.gap_of_comment_eq_none (by rwa [Cursor.skipBlanks_cons hb]),
    Cursor.skipBlanks_cons hb]
  exact hgap

/-- From `t` on, only blanks stand in front of the token at the front of `u`. A line break that is a
token itself is not meant. -/
structure Meets (s : Spacing) (t u : Text) : Prop where
  clear : Clear s t u
  ne_newline : u.head? ≠ some '\n'

/-- At the end of a text the end is met. -/
lemma meets_nil (s : Spacing) : Meets s [] [] :=
  ⟨clear_of_head (by simp), by simp⟩

/-- A token that begins with `c` right in front is met. -/
lemma meets_cons {s : Spacing} {c : Char} (h : (!Token.isBlank c && c != '/') = true) (t : Text) :
    Meets s (c :: t) (c :: t) := by
  simp only [Bool.and_eq_true, Bool.not_eq_true', bne_iff_ne, ne_eq] at h
  refine ⟨clear_of_head ?_, ?_⟩
  · simp [Spacing.isBlank, h]
  · rintro heq
    rw [List.head?_cons, Option.some.injEq] at heq
    rw [heq] at h
    exact absurd h.1 (by decide)

/-- A word `w` right in front is met. -/
lemma meets_word {s : Spacing} {w : Text} (h : IsWord w) (t : Text) :
    Meets s (w ++ t) (w ++ t) := by
  obtain ⟨c, cs, rfl, hc, -⟩ := h.exists_cons
  have hne {d : Char} (hd : Text.isIdentifierStart d = false) : c ≠ d :=
    ne_of_isIdentifierStart hc hd
  refine meets_cons ?_ _
  simp [Token.isBlank, hne (d := ' ') rfl, hne (d := '\n') rfl, hne (d := '\t') rfl,
    hne (d := '\r') rfl, hne (d := '\x0b') rfl, hne (d := '\x0c') rfl, hne (d := '/') rfl]

/-- A token is met behind one more blank `b`. -/
lemma Meets.blank {s : Spacing} {t u : Text} {b : Char} (h : Meets s t u)
    (hb : s.isBlank b = true) : Meets s (b :: t) u :=
  ⟨h.clear.blank hb, h.ne_newline⟩

/-! ## Parsers -/

namespace Parser

variable {α β : Type} {t u : Text}

/-- Where `t` remains, there is one reading; it has no weight, it leaves `rest`, and its value has
the property. -/
def Reads (p : Parser α) (t rest : Text) (P : α → Prop) : Prop :=
  ∀ o, ∃ a o', p ⟨o, t⟩ = [⟨a, 0, ⟨o', rest⟩⟩] ∧ o' + rest.length = o + t.length ∧ P a

/-- Where `t` remains, there is no reading. -/
def Fails (p : Parser α) (t : Text) : Prop :=
  ∀ o, p ⟨o, t⟩ = []

/-- The parser `done a` reads nothing. -/
lemma reads_done {P : α → Prop} {a : α} (h : P a) (t : Text) : Reads (done a) t t P :=
  fun o => ⟨a, o, rfl, rfl, h⟩

/-- One parser after the other: `f` goes on where `p` has left the text. -/
lemma Reads.andThen {p : Parser α} {f : α → Parser β} {P : α → Prop} {Q : β → Prop}
    (hp : Reads p t u P) (hf : ∀ a, P a → Reads (f a) u v Q) : Reads (andThen p f) t v Q := by
  intro o
  obtain ⟨a, o₁, heq₁, ho₁, ha⟩ := hp o
  obtain ⟨b, o₂, heq₂, ho₂, hb⟩ := hf a ha o₁
  refine ⟨b, o₂, ?_, ho₂.trans ho₁, hb⟩
  simp [Parser.andThen, heq₁, heq₂]

/-- Where `p` has no reading, there is none of `p` and then another parser. -/
lemma Fails.andThen {p : Parser α} (hp : Fails p t) (f : α → Parser β) :
    Fails (andThen p f) t := by
  intro o
  simp [Parser.andThen, hp o]

/-- Where `p` has a reading and `f` has none behind it, there is none of both. -/
lemma Reads.andThen_fails {p : Parser α} {f : α → Parser β} {P : α → Prop}
    (hp : Reads p t u P) (hf : ∀ a, P a → Fails (f a) u) : Fails (Parser.andThen p f) t := by
  intro o
  obtain ⟨a, o', heq, -, ha⟩ := hp o
  simp [Parser.andThen, heq, hf a ha o']

/-- The first alternative `p`, if it has a reading. -/
lemma Reads.orElse_left {p : Parser α} {P : α → Prop} (hp : Reads p t u P) (q : Parser α) :
    Reads (p <|> q) t u P := by
  intro o
  obtain ⟨a, o', heq, ho', ha⟩ := hp o
  refine ⟨a, o', ?_, ho', ha⟩
  change orElse p q _ = _
  simp only [orElse, heq]

/-- The second alternative `q`, if `p` has no reading. -/
lemma Reads.orElse_right {p q : Parser α} {P : α → Prop} (hq : Reads q t u P) (hp : Fails p t) :
    Reads (p <|> q) t u P := by
  intro o
  obtain ⟨a, o', heq, ho', ha⟩ := hq o
  refine ⟨a, o', ?_, ho', ha⟩
  change orElse p q _ = _
  simp only [orElse, hp o, heq]

/-- Where neither `p` nor `q` has a reading, there is none of their alternative. -/
lemma Fails.orElse {p q : Parser α} (hp : Fails p t) (hq : Fails q t) : Fails (p <|> q) t := by
  intro o
  change Parser.orElse p q _ = _
  simp only [Parser.orElse, hp o, hq o]

/-- The readings of `either` are those of `q` if `p` has none. -/
lemma Reads.either_right {p q : Parser α} {P : α → Prop} (hq : Reads q t u P) (hp : Fails p t) :
    Reads (either p q) t u P := by
  intro o
  obtain ⟨a, o', heq, ho', ha⟩ := hq o
  exact ⟨a, o', by simp [either, hp o, heq], ho', ha⟩

/-- Where neither `p` nor `q` has a reading, `either` has none. -/
lemma Fails.either {p q : Parser α} (hp : Fails p t) (hq : Fails q t) :
    Fails (Parser.either p q) t := by
  intro o
  simp [Parser.either, hp o, hq o]

/-- No weight makes a reading out of none. -/
lemma Fails.weigh {p : Parser α} (hp : Fails p t) (w : Int) : Fails (Parser.weigh w p) t := by
  intro o
  simp [Parser.weigh, hp o]

/-- The only reading is the heaviest. -/
lemma Reads.heaviest {p : Parser α} {P : α → Prop} (hp : Reads p t u P) :
    Reads (Parser.heaviest p) t u P := by
  intro o
  obtain ⟨a, o', heq, ho', ha⟩ := hp o
  refine ⟨a, o', ?_, ho', ha⟩
  simp [Parser.heaviest, heq, Reading.heaviest, Reading.enter]

/-- Of no readings none is the heaviest. -/
lemma Fails.heaviest {p : Parser α} (hp : Fails p t) : Fails (Parser.heaviest p) t := by
  intro o
  simp [Parser.heaviest, hp o, Reading.heaviest]

/-! ## Parts -/

/-- Parts in sequence: every reading of `p` goes on with every reading of `q`. -/
lemma append_apply (p q : Parts) (c : Cursor) :
    (p ++ q) c = (p c).flatMap fun r => (q r.cursor).map fun s =>
      ⟨r.value ++ s.value, r.weight + s.weight, s.cursor⟩ := by
  change Parser.append p q c = _
  simp [Parser.append, Parser.andThen, done, ← List.map_eq_flatMap, Function.comp_def]

/-- The parts of `p` and then those of `q`. -/
lemma Reads.append {p q : Parts} {ms ns : List Node} (hp : Reads p t u (AlikeParts ms))
    (hq : Reads q u v (AlikeParts ns)) : Reads (p ++ q) t v (AlikeParts (ms ++ ns)) :=
  hp.andThen fun _ ha => hq.andThen fun _ hb => reads_done (ha.append hb) v

/-- Where `p` has no reading, `p ++ q` has none. -/
lemma Fails.append {p : Parts} (hp : Fails p t) (q : Parts) : Fails (p ++ q) t := by
  change Fails (Parser.append p q) t
  exact hp.andThen _

/-- Where `q` has no reading behind that of `p`, `p ++ q` has none. -/
lemma Reads.append_fails {p q : Parts} {P : List Node → Prop} (hp : Reads p t u P)
    (hq : Fails q u) : Fails (p ++ q) t := by
  change Fails (Parser.append p q) t
  exact hp.andThen_fails fun _ _ => hq.andThen _

/-- Parts of `optional p` that are there. -/
lemma Reads.optional {p : Parts} {P : List Node → Prop} (hp : Reads p t u P) :
    Reads (optional p) t u P :=
  hp.orElse_left _

/-- Parts of `optional p` that are not there. -/
lemma Fails.optional {p : Parts} (hp : Fails p t) : Reads (optional p) t t (AlikeParts []) :=
  (reads_done alikeParts_nil t).orElse_right hp

/-- A `construct` of a `kind` has the parts that `p` reads. -/
lemma Reads.construct {p : Parts} {ms : List Node} (hp : Reads p t u (AlikeParts ms))
    (kind : Kind) : Reads (construct kind p) t u (Alike (.branch kind ⟨0, 0⟩ ms)) := by
  intro o
  obtain ⟨ns, o', heq, ho', hns⟩ := hp o
  refine ⟨.branch kind ⟨o, o'⟩ ns, o', ?_, ho', hns.branch kind _ _⟩
  simp [Parser.construct, heq]

/-- Without its parts there is no construct. -/
lemma Fails.construct {p : Parts} (hp : Fails p t) (kind : Kind) :
    Fails (Parser.construct kind p) t := by
  intro o
  simp [Parser.construct, hp o]

/-- Blanks may stand in front of what `spaced` reads. -/
lemma Reads.spaced {s : Spacing} {p : Parts} {P : List Node → Prop} (hp : Reads p u v P)
    (h : Meets s t u) : Reads (spaced s p) t v P := by
  intro o
  obtain ⟨o₁, hgap, ho₁⟩ := h.clear o
  obtain ⟨ns, o₂, heq, ho₂, hns⟩ := hp o₁
  refine ⟨ns, o₂, ?_, ho₂.trans ho₁, hns⟩
  simp [Parser.spaced, hgap, h.ne_newline, heq]

/-- What is not there is not there after blanks. -/
lemma Fails.spaced {s : Spacing} {p : Parts} (hp : Fails p u) (h : Meets s t u) :
    Fails (Parser.spaced s p) t := by
  intro o
  obtain ⟨o', hgap, -⟩ := h.clear o
  simp [Parser.spaced, hgap, hp o']

/-- A line break that is a token itself. -/
lemma clear_newline (t : Text) : Clear .sameLine ('\n' :: t) ('\n' :: t) :=
  clear_of_head fun c hc => by
    rw [List.head?_cons, Option.mem_some] at hc
    subst hc
    exact ⟨by decide, by decide⟩

/-- Behind a line break that is a token itself, there is nothing on the same line. -/
lemma fails_spaced_newline (p : Parts) (t : Text) : Fails (spaced .sameLine p) ('\n' :: t) := by
  intro o
  obtain ⟨o', hgap, -⟩ := clear_newline t o
  simp [Parser.spaced, hgap]

/-- A `part` is read in its `role`. -/
lemma Reads.part {s : Spacing} {p : Parser Node} {m : Node} (hp : Reads p u v (Alike m))
    (h : Meets s t u) (role : Option Role) :
    Reads (part s role p) t v (AlikeParts [m.withRole role]) := by
  refine Reads.spaced (fun o => ?_) h
  obtain ⟨n, o', heq, ho', hn⟩ := hp o
  exact ⟨[n.withRole role], o', by simp [heq], ho', (hn.withRole role).parts⟩

/-- A part that is not there. -/
lemma Fails.part {s : Spacing} {p : Parser Node} (hp : Fails p u) (h : Meets s t u)
    (role : Option Role) : Fails (Parser.part s role p) t :=
  Fails.spaced (fun o => by simp [hp o]) h

/-! ## Single tokens -/

/-- A mark `c` of one character that does not begin a longer one. -/
lemma reads_mark {s : Spacing} {m : String} {c : Char} (h : Meets s t (c :: u))
    (hm : m.toList = [c]) (hc : continuation [c] = none) :
    Reads (mark s m) t u (AlikeParts []) := by
  refine Reads.spaced (fun o => ⟨[], o + 1, ?_, ?_, alikeParts_nil⟩) h
  · simp [hm, hc, Cursor.past]
  · rw [List.length_cons]
    omega

/-- A mark `c` of one character right in front. -/
lemma reads_mark_cons {s : Spacing} {m : String} {c : Char}
    (h : (!Token.isBlank c && c != '/') = true) (hm : m.toList = [c])
    (hc : continuation [c] = none) (t : Text) : Reads (mark s m) (c :: t) t (AlikeParts []) :=
  reads_mark (meets_cons h t) hm hc

/-- A dot that does not begin three of them. -/
lemma reads_dot {s : Spacing} (hu : u.head? ≠ some '.') (h : Meets s t ('.' :: u)) :
    Reads (mark s ".") t u (AlikeParts []) := by
  refine Reads.spaced (fun o => ⟨[], o + 1, ?_, ?_, alikeParts_nil⟩) h
  · simp [continuation, hu, Cursor.past]
  · rw [List.length_cons]
    omega

/-- The mark `m` is not there, since another character `c` is. -/
lemma fails_mark {s : Spacing} {m : String} {c : Char} (hm : m.toList.head?.any (· != c) = true)
    (h : Meets s t (c :: u)) : Fails (mark s m) t := by
  obtain ⟨d, hd, hne⟩ := (Option.any_eq_true _ _).mp hm
  obtain ⟨ds, hds⟩ := List.head?_eq_some_iff.mp hd
  have hfront : m.toList.isPrefixOf (c :: u) = false := by
    rw [hds, List.isPrefixOf_cons_cons, beq_false_of_ne (by simpa using hne), Bool.false_and]
  exact Fails.spaced (fun o => by simp [hfront]) h

/-- The mark `m` is not there, since a word `w` is. -/
lemma fails_mark_of_word {s : Spacing} {m : String} {w : Text}
    (hm : m.toList.head?.any (fun d => !Text.isIdentifierStart d) = true) (hw : IsWord w)
    (h : Meets s t (w ++ u)) : Fails (mark s m) t := by
  obtain ⟨c, cs, rfl, hc, -⟩ := hw.exists_cons
  obtain ⟨d, hd, hword⟩ := (Option.any_eq_true _ _).mp hm
  have hne : d ≠ c := (ne_of_isIdentifierStart hc (by simpa using hword)).symm
  exact fails_mark (by simpa [hd] using hne) h

/-- The keyword `w` is read. -/
lemma reads_keyword {s : Spacing} {w : String} (hw : IsWord w.toList) (hu : Stops u)
    (h : Meets s t (w.toList ++ u)) : Reads (keyword s w) t u (AlikeParts []) := by
  refine Reads.spaced (fun o => ⟨[], o + w.toList.length, ?_, ?_, alikeParts_nil⟩) h
  · simp only [word_append hw hu, if_true, Cursor.past]
  · rw [List.length_append]
    omega

/-- The keyword `w` is not there. -/
lemma fails_keyword {s : Spacing} {w : String} (hw : ∀ rest, word u ≠ some (w.toList, rest))
    (h : Meets s t u) : Fails (keyword s w) t := by
  refine Fails.spaced (fun o => ?_) h
  dsimp only
  split
  · next text rest hword =>
    rw [if_neg]
    rintro rfl
    exact hw rest hword
  · rfl

/-- The keyword `w` is not there because another word `w'` is. -/
lemma fails_keyword_of_word {s : Spacing} {w : String} {w' : Text} (hw : IsWord w') (hu : Stops u)
    (hne : w' ≠ w.toList) (h : Meets s t (w' ++ u)) : Fails (keyword s w) t := by
  refine fails_keyword (fun rest heq => hne ?_) h
  rw [word_append hw hu, Option.some.injEq, Prod.mk.injEq] at heq
  exact heq.1

/-- A name `w` that is none of the `keywords` is read as a leaf. -/
lemma reads_name {w : Text} (hw : IsWord w) (hu : Stops u) (kind : Kind) {keywords : List String}
    (hk : (keywords.any fun k => w = k.toList) = false) :
    Reads (name kind keywords) (w ++ u) u (Alike (.leaf kind 0 w)) := by
  intro o
  refine ⟨.leaf kind o w, o + w.length, ?_, ?_, alike_leaf kind _ _ w⟩
  · simp [name, word_append hw hu, hk, Cursor.past]
  · rw [List.length_append]
    omega

/-- No name where there is no word. -/
lemma fails_name (h : word t = none) (kind : Kind) (keywords : List String) :
    Fails (name kind keywords) t := by
  intro o
  simp [name, h]

/-- No name is read where one of the `keywords` is. -/
lemma fails_name_of_keyword {w : Text} (hw : IsWord w) (hu : Stops u) (kind : Kind)
    {keywords : List String} (hk : (keywords.any fun k => w = k.toList) = true) :
    Fails (name kind keywords) (w ++ u) := by
  intro o
  simp only [name, word_append hw hu, hk, if_true]

/-- A line break is a `terminator`: it ends a statement or an entry. -/
lemma reads_terminator (t : Text) : Reads terminator ('\n' :: t) t (AlikeParts []) := by
  intro o
  obtain ⟨o', hgap, ho'⟩ := clear_newline t o
  refine ⟨[], o' + 1, ?_, ?_, alikeParts_nil⟩
  · simp [terminator, hgap, Cursor.past]
  · rw [List.length_cons] at ho' ⊢
    omega

/-! ## Repetitions -/

/-- From a single open reading that leaves `t`, repeating the parts leads to a single reading that
leaves `rest`, and the values of the repetitions together have the property. -/
def Repeats (p : Parts) (t rest : Text) (P : List Node → Prop) : Prop :=
  ∀ (bound : Text) (a : List Node) (w : Int) (o : Nat), t.length ≤ bound.length →
    ∃ b o', manyFrom p bound [⟨a, w, ⟨o, t⟩⟩] = [⟨a ++ b, w, ⟨o', rest⟩⟩] ∧
      o' + rest.length = o + t.length ∧ P b

/-- Where `p` has no reading, it is repeated no more. -/
lemma Fails.repeats {p : Parts} (hp : Fails p t) : Repeats p t t (AlikeParts []) := by
  intro bound a w o _
  refine ⟨[], o, ?_, rfl, alikeParts_nil⟩
  rw [List.append_nil]
  cases bound with
  | nil => rfl
  | cons b bound =>
    have hnone : manyFrom p bound [] = [] := by
      cases bound <;> rfl
    simp only [manyFrom, Reading.hindmost, hp o, hnone]

/-- One repetition of `p`, and then others. -/
lemma Reads.repeats {p : Parts} {ms ns : List Node} (hp : Reads p t u (AlikeParts ms))
    (hlt : u.length < t.length) (h : Repeats p u v (AlikeParts ns)) :
    Repeats p t v (AlikeParts (ms ++ ns)) := by
  intro bound a w o hbound
  cases bound with
  | nil =>
    rw [List.length_nil] at hbound
    omega
  | cons b bound =>
    rw [List.length_cons] at hbound
    obtain ⟨x, o₁, heq₁, ho₁, hx⟩ := hp o
    obtain ⟨y, o₂, heq₂, ho₂, hy⟩ := h bound (a ++ x) (w + 0) o₁ (by omega)
    refine ⟨x ++ y, o₂, ?_, ho₂.trans ho₁, hx.append hy⟩
    rw [Int.add_zero] at heq₂
    simp only [manyFrom, Reading.hindmost, heq₁, List.map_cons, List.map_nil, List.foldl_cons,
      List.foldl_nil, Reading.enter, Int.add_zero, heq₂, List.append_assoc]

/-- Parts that are repeated are read by `many`. -/
lemma Repeats.many {p : Parts} {P : List Node → Prop} (h : Repeats p t u P) :
    Reads (many p) t u P := by
  intro o
  obtain ⟨b, o', heq, ho', hb⟩ := h t [] 0 o (Nat.le_refl _)
  exact ⟨b, o', heq, ho', hb⟩

end Parser

end RouteStubs.Syntax
