import RouteStubs.Proofs.Syntax.Reads

/-!
# Texts that are read in two ways

At some places a text has two readings, of which one stops early, and what follows decides for the
other. `Forks p t rest short P` says that there are two such readings: one that leaves `rest`, like
the reading of `Reads p t rest P`, and one behind it that leaves `short`. The fork is over as soon
as something follows that cannot be read at `short`.
-/

namespace RouteStubs.Syntax.Parser

open Node

variable {α : Type} {t u rest short : Text}

/-- Where `t` remains, there is one reading, whatever its value and weight, and it leaves `rest`. -/
def Halts (p : Parser α) (t rest : Text) : Prop :=
  ∀ o, ∃ a w o', p ⟨o, t⟩ = [⟨a, w, ⟨o', rest⟩⟩] ∧ o' + rest.length = o + t.length

/-- Where `t` remains, there are two readings: the first is like the one of `Reads`, and the second
is behind it and leaves `short`. -/
def Forks (p : Parser α) (t rest short : Text) (P : α → Prop) : Prop :=
  rest.length < short.length ∧
    ∀ o, ∃ a o₁ b w o₂, p ⟨o, t⟩ = [⟨a, 0, ⟨o₁, rest⟩⟩, ⟨b, w, ⟨o₂, short⟩⟩] ∧
      o₁ + rest.length = o + t.length ∧ o₂ + short.length = o + t.length ∧ P a

/-- A `part` with one reading has one in its role. -/
lemma Halts.part {s : Spacing} {p : Parser Node} (hp : Halts p u rest) (h : Meets s t u)
    (role : Option Role) : Halts (part s role p) t rest := by
  intro o
  obtain ⟨o₁, hgap, ho₁⟩ := h.clear o
  obtain ⟨a, w, o₂, heq, ho₂⟩ := hp o₁
  refine ⟨[a.withRole role], w, o₂, ?_, ho₂.trans ho₁⟩
  simp [Parser.part, Parser.spaced, hgap, h.ne_newline, heq]

/-- A `construct` has one reading if its parts `p` have one. -/
lemma Halts.construct {p : Parts} (hp : Halts p t rest) (kind : Kind) :
    Halts (construct kind p) t rest := by
  intro o
  obtain ⟨a, w, o', heq, ho'⟩ := hp o
  exact ⟨.branch kind ⟨o, o'⟩ a, w, o', by simp [Parser.construct, heq], ho'⟩

/-- The second alternative `q`, if `p` has no reading. -/
lemma Halts.orElse_right {p q : Parser α} (hq : Halts q t rest) (hp : Fails p t) :
    Halts (p <|> q) t rest := by
  intro o
  obtain ⟨a, w, o', heq, ho'⟩ := hq o
  refine ⟨a, w, o', ?_, ho'⟩
  change orElse p q _ = _
  simp only [orElse, hp o, heq]

/-- Two parsers `p` and `q` with one reading each have two by `either`. -/
lemma Reads.forks {p q : Parser α} {P : α → Prop} (hp : Reads p t rest P)
    (hq : Halts q t short) (hlt : rest.length < short.length) :
    Forks (either p q) t rest short P := by
  refine ⟨hlt, fun o => ?_⟩
  obtain ⟨a, o₁, heq₁, ho₁, ha⟩ := hp o
  obtain ⟨b, w, o₂, heq₂, ho₂⟩ := hq o
  exact ⟨a, o₁, b, w, o₂, by simp [either, heq₁, heq₂], ho₁, ho₂, ha⟩

/-- A `part` with two readings has two in its role. -/
lemma Forks.part {s : Spacing} {p : Parser Node} {m : Node} (hp : Forks p u rest short (Alike m))
    (h : Meets s t u) (role : Option Role) :
    Forks (part s role p) t rest short (AlikeParts [m.withRole role]) := by
  refine ⟨hp.1, fun o => ?_⟩
  obtain ⟨o', hgap, ho'⟩ := h.clear o
  obtain ⟨a, o₁, b, w, o₂, heq, ho₁, ho₂, ha⟩ := hp.2 o'
  refine ⟨[a.withRole role], o₁, [b.withRole role], w, o₂, ?_, ho₁.trans ho', ho₂.trans ho',
    (ha.withRole role).parts⟩
  simp [Parser.part, Parser.spaced, hgap, h.ne_newline, heq]

/-- One reading of `p` in front of two readings of `q`. -/
lemma Reads.append_forks {p q : Parts} {ms ns : List Node} (hp : Reads p t u (AlikeParts ms))
    (hq : Forks q u rest short (AlikeParts ns)) :
    Forks (p ++ q) t rest short (AlikeParts (ms ++ ns)) := by
  refine ⟨hq.1, fun o => ?_⟩
  obtain ⟨x, o', heq, ho', hx⟩ := hp o
  obtain ⟨a, o₁, b, w, o₂, heq', ho₁, ho₂, ha⟩ := hq.2 o'
  refine ⟨x ++ a, o₁, x ++ b, w, o₂, ?_, ho₁.trans ho', ho₂.trans ho', hx.append ha⟩
  simp [append_apply, heq, heq']

/-- What `q` reads tells which of the two readings of `p` is meant. -/
lemma Forks.append {p q : Parts} {ms ns : List Node} (hp : Forks p t rest short (AlikeParts ms))
    (hq : Reads q rest v (AlikeParts ns)) (hshort : Fails q short) :
    Reads (p ++ q) t v (AlikeParts (ms ++ ns)) := by
  intro o
  obtain ⟨a, o₁, b, w, o₂, heq, ho₁, ho₂, ha⟩ := hp.2 o
  obtain ⟨y, o₃, heq', ho₃, hy⟩ := hq o₁
  refine ⟨a ++ y, o₃, ?_, ho₃.trans ho₁, ha.append hy⟩
  simp [append_apply, heq, heq', hshort o₂]

/-- The same if the parts of `p` could be repeated. -/
lemma Forks.many_append {p q : Parts} {ms ns : List Node}
    (hp : Forks p t rest short (AlikeParts ms)) (hrest : Fails p rest) (hshort : Fails p short)
    (ht : 3 ≤ t.length) (hq : Reads q rest v (AlikeParts ns)) (hqshort : Fails q short) :
    Reads (many p ++ q) t v (AlikeParts (ms ++ ns)) := by
  intro o
  obtain ⟨a, o₁, b, w, o₂, heq, ho₁, ho₂, ha⟩ := hp.2 o
  obtain ⟨y, o₃, heq', ho₃, hy⟩ := hq o₁
  -- the reading behind comes to its end first
  have hmany : many p ⟨o, t⟩ = [⟨b, w, ⟨o₂, short⟩⟩, ⟨a, 0, ⟨o₁, rest⟩⟩] := by
    have hne : o₁ ≠ o₂ := by
      have := hp.1
      omega
    have hlt : o₂ < o₁ := by
      have := hp.1
      omega
    obtain ⟨c₁, c₂, c₃, t', rfl⟩ : ∃ c₁ c₂ c₃ t', t = c₁ :: c₂ :: c₃ :: t' := by
      match t, ht with
      | c₁ :: c₂ :: c₃ :: t', _ => exact ⟨c₁, c₂, c₃, t', rfl⟩
    have hnone : manyFrom p t' [] = [] := by
      cases t' <;> rfl
    simp [many, manyFrom, Reading.hindmost, Reading.enter, heq, hne, hlt, hshort o₂, hrest o₁,
      hnone]
  refine ⟨a ++ y, o₃, ?_, ho₃.trans ho₁, ha.append hy⟩
  simp [append_apply, hmany, heq', hqshort o₂]

/-- Parts in sequence can be grouped in either way. -/
lemma append_assoc (p q r : Parts) : p ++ q ++ r = p ++ (q ++ r) := by
  funext c
  simp [append_apply, List.flatMap_assoc, List.flatMap_map, List.map_flatMap, Int.add_assoc,
    Function.comp_def]

/-- Parts of `optional p` that are there because what follows is. -/
lemma Reads.optional_append {p q : Parts} {P : List Node → Prop} (h : Reads (p ++ q) t v P) :
    Reads (Parser.optional p ++ q) t v P := by
  intro o
  obtain ⟨a, o', heq, ho', ha⟩ := h o
  refine ⟨a, o', ?_, ho', ha⟩
  have hsome : Parser.optional p ⟨o, t⟩ = p ⟨o, t⟩ := by
    change orElse p nothing _ = _
    cases hp : p ⟨o, t⟩ with
    | nil => simp [append_apply, hp] at heq
    | cons r rs => simp only [orElse, hp]
  rw [append_apply] at heq ⊢
  rw [hsome, heq]

end RouteStubs.Syntax.Parser
