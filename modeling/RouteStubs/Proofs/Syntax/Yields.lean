import Mathlib.Tactic.Lemma
import RouteStubs.Syntax.SourceFile

/-!
# What parsers yield

A property of everything a parser can read, whatever the text and wherever it starts. Such
properties pass from parsers to the parsers built from them, and a property of all constructs of a
grammar is gathered rule by rule. Here this is done for the kinds of statements: no statement is a
function, so that every function in a file was read by the rule for functions and has a name.
-/

namespace RouteStubs.Syntax

namespace Parser

variable {α β : Type}

/-- Every value that the parser `p` reads has the property `P`. -/
def Yields (p : Parser α) (P : α → Prop) : Prop :=
  ∀ c, ∀ r ∈ p c, P r.value

/-- What has the property `P` has the weaker property `Q`. -/
lemma Yields.mono {p : Parser α} {P Q : α → Prop} (h : p.Yields P) (hPQ : ∀ a, P a → Q a) :
    p.Yields Q :=
  fun c r hr => hPQ _ (h c r hr)

/-- Where nothing is read, every property holds. -/
lemma yields_fail (P : α → Prop) : (fail : Parser α).Yields P := by
  intro c r hr
  simp [fail] at hr

/-- The value `a` that is given beforehand is all that `done` reads. -/
lemma yields_done {P : α → Prop} {a : α} (h : P a) : (done a).Yields P := by
  intro c r hr
  simp only [done, List.mem_singleton] at hr
  rwa [hr]

/-- What the second parser `f` reads may depend on what the first has read. -/
lemma yields_andThen {p : Parser α} {f : α → Parser β} {P : α → Prop} {Q : β → Prop}
    (hp : p.Yields P) (hf : ∀ a, P a → (f a).Yields Q) : (andThen p f).Yields Q := by
  intro c r hr
  obtain ⟨s, hs, hr⟩ := List.mem_flatMap.mp hr
  obtain ⟨u, hu, rfl⟩ := List.mem_map.mp hr
  exact hf s.value (hp c s hs) s.cursor u hu

/-- The second parser `q` is tried where the first reads nothing. -/
lemma yields_orElse {p q : Parser α} {P : α → Prop} (hp : p.Yields P) (hq : q.Yields P) :
    (p <|> q).Yields P := by
  intro c r hr
  change r ∈ orElse p q c at hr
  unfold orElse at hr
  split at hr
  · exact hq c r hr
  · exact hp c r hr

/-- The readings of `p` and `q` together. -/
lemma yields_either {p q : Parser α} {P : α → Prop} (hp : p.Yields P) (hq : q.Yields P) :
    (either p q).Yields P := by
  intro c r hr
  rcases List.mem_append.mp hr with h | h
  · exact hp c r h
  · exact hq c r h

/-- The `condition` on the text takes readings away and adds none. -/
lemma yields_guarding {condition : Text → Bool} {p : Parser α} {P : α → Prop} (hp : p.Yields P) :
    (guarding condition p).Yields P := by
  intro c r hr
  unfold guarding at hr
  split at hr
  · exact hp c r hr
  · simp at hr

/-- A `construct` is of its `kind`, and its parts are those that were read. -/
lemma yields_construct {kind : Kind} {p : Parts} {P : List Node → Prop} (hp : p.Yields P) :
    (construct kind p).Yields fun n => n.kind = kind ∧ P n.children := by
  intro c r hr
  obtain ⟨s, hs, rfl⟩ := List.mem_map.mp hr
  exact ⟨rfl, hp c s hs⟩

/-- A `construct` is of its `kind`. -/
lemma yields_kind_construct (kind : Kind) (p : Parts) :
    (construct kind p).Yields fun n => n.kind = kind :=
  (yields_construct (P := fun _ => True) fun _ _ _ => trivial).mono fun _ h => h.1

end Parser

namespace Reading

variable {α : Type}

/-- By `enter` nothing is added but the reading `r`. -/
lemma mem_enter {r s : Reading α} {kept : List (Reading α)} (h : s ∈ enter r kept) :
    s = r ∨ s ∈ kept := by
  induction kept with
  | nil => exact .inl (by simpa [enter] using h)
  | cons k others ih =>
    unfold enter at h
    split at h
    · rcases List.mem_cons.mp h with h | h
      · split at h
        · exact .inl h
        · exact .inr (h ▸ List.mem_cons_self)
      · exact .inr (List.mem_cons_of_mem _ h)
    · rcases List.mem_cons.mp h with rfl | h
      · exact .inr List.mem_cons_self
      · exact (ih h).imp id (List.mem_cons_of_mem _)

/-- By `enter` for several `readings` nothing is added but those. -/
lemma mem_foldl_enter {s : Reading α} {readings kept : List (Reading α)}
    (h : s ∈ readings.foldl (fun kept r => enter r kept) kept) : s ∈ readings ∨ s ∈ kept := by
  induction readings generalizing kept with
  | nil => exact .inr h
  | cons r readings ih =>
    rcases ih h with h | h
    · exact .inl (List.mem_cons_of_mem _ h)
    · rcases mem_enter h with rfl | h
      · exact .inl List.mem_cons_self
      · exact .inr h

/-- The `heaviest` readings are among the readings. -/
lemma mem_of_mem_heaviest {s : Reading α} {readings : List (Reading α)}
    (h : s ∈ heaviest readings) : s ∈ readings :=
  (mem_foldl_enter h).resolve_right (by simp)

/-- The reading `r` that ends first and the others are among the readings. -/
lemma mem_of_hindmost {r : Reading α} {readings others : List (Reading α)}
    (h : hindmost readings = some (r, others)) : ∀ s, s = r ∨ s ∈ others → s ∈ readings := by
  induction readings generalizing r others with
  | nil => simp [hindmost] at h
  | cons k ks ih =>
    unfold hindmost at h
    split at h
    · cases h
      simp
    · next s rest hs =>
      split at h <;> cases h
      · have := ih hs
        grind
      · simp

end Reading

namespace Parser

variable {α : Type}

/-- What `heaviest` reads, `p` reads. -/
lemma yields_heaviest {p : Parser α} {P : α → Prop} (hp : p.Yields P) :
    (heaviest p).Yields P :=
  fun c r hr => hp c r (Reading.mem_of_mem_heaviest hr)

/-! ## Parts in sequence -/

/-- Parts of `p` and `q` in a row. -/
lemma yields_append {p q : Parts} {P Q R : List Node → Prop} (hp : p.Yields P) (hq : q.Yields Q)
    (hR : ∀ ns ms, P ns → Q ms → R (ns ++ ms)) : (p ++ q).Yields R :=
  yields_andThen hp fun _ hns => yields_andThen hq fun _ hms => yields_done (hR _ _ hns hms)

/-- Parts of `p` that may be missing. -/
lemma yields_optional {p : Parts} {P : List Node → Prop} (hp : p.Yields P) (hnil : P []) :
    (optional p).Yields P :=
  yields_orElse hp (yields_done hnil)

/-- What is read by repetition of `p` has every property `P` that passes to longer lists. The
induction is on the bound, over all lists of open readings. -/
lemma manyFrom_yields {p : Parts} {P : List Node → Prop} {Q : List Node → Prop} (hp : p.Yields Q)
    (happend : ∀ ns ms, P ns → Q ms → P (ns ++ ms)) (bound : Text) :
    ∀ readings : List (Reading (List Node)), (∀ r ∈ readings, P r.value) →
      ∀ r ∈ manyFrom p bound readings, P r.value := by
  induction bound with
  | nil => exact fun readings h => h
  | cons _ bound ih =>
    intro readings hreadings r hr
    unfold manyFrom at hr
    split at hr
    · simp at hr
    · next s others hs =>
      have hmem := Reading.mem_of_hindmost hs
      have hothers : ∀ o ∈ others, P o.value := fun o ho => hreadings o (hmem o (.inr ho))
      split at hr
      · rcases List.mem_cons.mp hr with rfl | hr
        · exact hreadings r (hmem r (.inl rfl))
        · exact ih others hothers r hr
      · refine ih _ (fun o ho => ?_) r hr
        rcases Reading.mem_foldl_enter ho with ho | ho
        · obtain ⟨u, hu, rfl⟩ := List.mem_map.mp ho
          exact happend _ _ (hreadings s (hmem s (.inl rfl))) (hp s.cursor u hu)
        · exact hothers o ho

/-- What `many` reads has every property `P` that passes to lists put together. -/
lemma yields_many {p : Parts} {P : List Node → Prop} (hp : p.Yields P) (hnil : P [])
    (happend : ∀ ns ms, P ns → P ms → P (ns ++ ms)) : (many p).Yields P := by
  intro c r hr
  refine manyFrom_yields hp happend c.rest _ (fun s hs => ?_) r hr
  rw [List.mem_singleton.mp hs]
  exact hnil

/-- The nodes gathered in a gap are comments. -/
lemma kind_of_mem_gapFrom {s : Spacing} {bound : Text} {c : Cursor} {n : Node}
    (h : n ∈ (c.gapFrom s bound).1) : n.kind = .comment := by
  induction bound generalizing c with
  | nil => simp [Cursor.gapFrom] at h
  | cons _ bound ih =>
    simp only [Cursor.gapFrom] at h
    split at h
    · simp at h
    · rcases List.mem_cons.mp h with rfl | h
      · rfl
      · exact ih h

/-- A `part` stands after comments, in its role. -/
lemma yields_part {s : Spacing} {role : Option Role} {p : Parser Node} {P : Node → Prop}
    (hp : p.Yields P) :
    (part s role p).Yields fun ns =>
      ∃ comments n, ns = comments ++ [n.withRole role] ∧ P n ∧
        ∀ m ∈ comments, m.kind = .comment := by
  intro c r hr
  simp only [part, spaced] at hr
  split at hr
  · simp at hr
  · obtain ⟨u, hu, rfl⟩ := List.mem_map.mp hr
    obtain ⟨v, hv, rfl⟩ := List.mem_map.mp hu
    exact ⟨_, v.value, rfl, hp _ v hv, fun m hm => kind_of_mem_gapFrom hm⟩

/-- All nodes between tokens are comments. -/
lemma yields_comments (s : Spacing) :
    (comments s).Yields fun ns => ∀ n ∈ ns, n.kind = .comment := by
  intro c r hr
  simp only [comments, spaced] at hr
  split at hr
  · simp at hr
  · obtain ⟨u, hu, rfl⟩ := List.mem_map.mp hr
    rw [List.mem_singleton.mp hu]
    intro n hn
    exact kind_of_mem_gapFrom (List.mem_append.mp hn |>.resolve_right (by simp))

/-- The nodes of a terminator are comments. -/
lemma yields_terminator : terminator.Yields fun ns => ∀ n ∈ ns, n.kind = .comment := by
  intro c r hr
  simp only [terminator] at hr
  split at hr
  · split at hr
    · rw [List.mem_singleton.mp hr]
      exact fun n hn => kind_of_mem_gapFrom hn
    · simp at hr
  · simp at hr

end Parser

/-! ## Statements are no functions -/

namespace Statements

open RouteStubs.Syntax.Parser Expressions

/-- A `construct` of another kind than that of functions is no function. -/
lemma yields_construct_ne {kind : Kind} (hk : kind ≠ .functionDeclaration) (p : Parts) :
    (construct kind p).Yields fun n => n.kind ≠ .functionDeclaration :=
  (yields_kind_construct kind p).mono fun _ h => h ▸ hk

/-- The kind and the parts `v` of a statement that is no function. -/
def NoFunction (v : Kind × List Node) : Prop :=
  v.1 ≠ .functionDeclaration

/-- What `assigned` reads is no function. -/
lemma yields_assigned (phrase : Phrases) (s : Setting) (spacing : Spacing) :
    (assigned phrase s spacing).Yields NoFunction := by
  intro c r hr
  simp only [assigned] at hr
  split at hr
  · simp at hr
  · next m kind hm =>
    obtain ⟨u, -, rfl⟩ := List.mem_map.mp hr
    have hkind : kind = .shortVarDeclaration ∨ kind = .assignmentStatement := by
      split at hm
      · cases hm
        exact .inl rfl
      · obtain ⟨_, -, h⟩ := Option.map_eq_some_iff.mp hm
        cases h
        exact .inr rfl
    simp only [NoFunction]
    split
    · decide
    · rcases hkind with rfl | rfl <;> decide

/-- What `simpleTail` reads behind the first expression of a simple statement does not make it a
function. -/
lemma yields_simpleTail (phrase : Phrases) (s : Setting) (left : Node) :
    (simpleTail phrase s left).Yields NoFunction := by
  have hplain (kind : Kind) (p : Parts) (hk : kind ≠ .functionDeclaration) :
      (andThen p fun parts => done (kind, left :: parts)).Yields NoFunction :=
    yields_andThen (P := fun _ => True) (fun _ _ _ => trivial) fun _ _ => yields_done hk
  have hseveral : Yields (fun c => (otherTargets phrase s c).flatMap fun r =>
      (assigned phrase s .free r.cursor).map fun a =>
        { a with
          value := (a.value.1, (Node.branch .expressionList ⟨left.span.start, r.cursor.offset⟩
            (left :: r.value)).withRole (some .left) :: a.value.2)
          weight := r.weight + a.weight }) NoFunction := by
    intro c r hr
    obtain ⟨u, -, hr⟩ := List.mem_flatMap.mp hr
    obtain ⟨v, hv, rfl⟩ := List.mem_map.mp hr
    exact yields_assigned phrase s .free _ v hv
  have hsingle := yields_andThen (yields_assigned phrase s s.first.spacing)
    fun a (ha : NoFunction a) => yields_done (P := NoFunction)
      (a := (a.1, (Node.branch .expressionList ⟨left.span.start, left.span.stop⟩
        (left :: [])).withRole (some .left) :: a.2)) ha
  have htail := yields_orElse hseveral (yields_orElse hsingle
    (hplain .expressionStatement nothing (by decide)))
  unfold simpleTail
  split
  · exact yields_orElse (hplain _ _ (by decide)) (yields_orElse (hplain _ _ (by decide))
      (yields_orElse (hplain _ _ (by decide)) htail))
  · exact htail

/-- What `simple` reads is no function. -/
lemma yields_simple (phrase : Phrases) (s : Setting) :
    (simple phrase s).Yields fun n => n.kind ≠ .functionDeclaration := by
  intro c r hr
  obtain ⟨u, -, hr⟩ := List.mem_flatMap.mp hr
  obtain ⟨v, hv, rfl⟩ := List.mem_map.mp hr
  exact yields_simpleTail phrase s u.value _ v hv

/-- What `switchOnNothing` reads is no function. -/
lemma yields_switchOnNothing (phrase : Phrases) : (switchOnNothing phrase).Yields NoFunction :=
  yields_andThen (P := fun _ => True) (fun _ _ _ => trivial) fun _ _ =>
    yields_done (by simp [NoFunction])

/-- What `switchOn` reads is no function. -/
lemma yields_switchOn (phrase : Phrases) (n : Node) :
    (switchOn phrase n).Yields NoFunction := by
  intro c r hr
  rcases List.mem_append.mp hr with hr | hr <;>
  · obtain ⟨_, -, hr⟩ := List.mem_flatMap.mp hr
    obtain ⟨_, -, rfl⟩ := List.mem_map.mp hr
    simp [NoFunction]

/-- By `afterSimple` a simple statement in front leaves the kind to what follows it. -/
lemma yields_afterSimple {phrase : Phrases} {s : Setting} {f : Node → Parser (Kind × List Node)}
    (hf : ∀ n, (f n).Yields NoFunction) : (afterSimple phrase s f).Yields NoFunction := by
  intro c r hr
  obtain ⟨u, hu, rfl⟩ := List.mem_map.mp hr
  exact yields_andThen (yields_simple phrase s) (fun n _ => hf n) _ u hu

/-- What `switch` reads is no function. -/
lemma yields_switch (phrase : Phrases) :
    (switch phrase).Yields fun n => n.kind ≠ .functionDeclaration := by
  have htail : (switchTail phrase).Yields NoFunction := by
    refine yields_orElse (yields_switchOnNothing phrase) (yields_afterSimple fun n => ?_)
    refine yields_either (yields_switchOn phrase n) ?_
    refine yields_andThen (P := fun _ => True) (fun _ _ _ => trivial) fun _ _ => ?_
    refine yields_andThen (yields_orElse (yields_switchOnNothing phrase)
      (yields_afterSimple (yields_switchOn phrase))) fun t ht => yields_done ht
  intro c r hr
  have hr := Reading.mem_of_mem_heaviest hr
  rw [List.mem_append, List.mem_filter, List.mem_filter, ← and_or_left] at hr
  obtain ⟨u, hu, rfl⟩ := List.mem_map.mp hr.1
  exact yields_andThen (P := fun _ => True) (fun _ _ _ => trivial) (fun _ _ => htail) _ u hu

/-- What `statement` reads is no function, given that blocks and conditionals are none. -/
lemma yields_statement {phrase : Phrases}
    (hblock : (phrase .block).Yields fun n => n.kind ≠ .functionDeclaration)
    (hconditional : (phrase .conditional).Yields fun n => n.kind ≠ .functionDeclaration)
    (position : Position) :
    (statement phrase position).Yields fun n => n.kind ≠ .functionDeclaration := by
  have hword {word : Text} {rule : Parser Node} (h : wordStatement phrase word = some rule) :
      rule.Yields fun n => n.kind ≠ .functionDeclaration := by
    obtain ⟨entry, hentry, rfl⟩ := Option.map_eq_some_iff.mp h
    have hmem := List.mem_of_find?_eq_some hentry
    simp only [List.mem_cons, List.not_mem_nil, or_false] at hmem
    rcases hmem with rfl | rfl | rfl | rfl | rfl | rfl | rfl | rfl | rfl | rfl | rfl | rfl | rfl |
      rfl
    case inr.inr.inr.inr.inr.inr.inl => exact hconditional
    case inr.inr.inr.inr.inr.inr.inr.inr.inl => exact yields_switch phrase
    all_goals exact yields_construct_ne (by decide) _
  intro c r hr
  unfold statement at hr
  split at hr
  · exact hblock c r hr
  · exact yields_construct_ne (by decide) _ c r hr
  · split at hr
    · exact yields_simple phrase _ c r hr
    · split at hr
      · simp at hr
      · split at hr
        · next h => exact hword h c r hr
        · split at hr
          · exact yields_simple phrase _ c r hr
          · exact yields_construct_ne (by decide) _ c r hr

end Statements

/-! ## Functions have names -/

open RouteStubs.Syntax.Parser Declarations

/-- The node `n` has a name if it is a function. -/
def HasNameIfFunction (n : Node) : Prop :=
  n.kind = .functionDeclaration → (n.child? .name).isSome = true

/-- A function with its name is one in every role. -/
lemma HasNameIfFunction.withRole {n : Node} (h : HasNameIfFunction n) (role : Option Role) :
    HasNameIfFunction (n.withRole role) := h

/-- What `phraseWithin` reads as a statement, at whatever `depth`, is no function. -/
lemma yields_phraseWithin_statement (depth : Nat) (position : Position) :
    (phraseWithin depth (.statement position)).Yields fun n => n.kind ≠ .functionDeclaration := by
  cases depth with
  | zero => exact yields_fail _
  | succ depth =>
    refine Statements.yields_statement ?_ ?_ position
    · cases depth with
      | zero => exact yields_fail _
      | succ depth => exact yields_heaviest (Statements.yields_construct_ne (by decide) _)
    · cases depth with
      | zero => exact yields_fail _
      | succ depth => exact Statements.yields_construct_ne (by decide) _

/-- What `functionDeclaration` reads has a name. -/
lemma yields_functionDeclaration (phrase : Phrases) :
    (functionDeclaration phrase).Yields fun n => (n.child? .name).isSome = true := by
  have hname : (keyword .free "func" ++ part .free (some .name) (name .identifier [])).Yields
      fun ns => ∃ n ∈ ns, n.role = some .name := by
    refine yields_append (P := fun _ => True) (fun _ _ _ => trivial)
      (yields_part (P := fun _ => True) fun _ _ _ => trivial) ?_
    rintro ns ms - ⟨comments, n, rfl, -⟩
    exact ⟨n.withRole (some .name), by simp, rfl⟩
  have hmore {p q : Parts} (hp : p.Yields fun ns => ∃ n ∈ ns, n.role = some .name) :
      (p ++ q).Yields fun ns => ∃ n ∈ ns, n.role = some .name := by
    refine yields_append (Q := fun _ => True) hp (fun _ _ _ => trivial) ?_
    rintro ns ms ⟨n, hn, hrole⟩ -
    exact ⟨n, List.mem_append_left _ hn, hrole⟩
  refine (yields_construct (hmore (hmore hname))).mono ?_
  rintro n ⟨-, m, hm, hrole⟩
  rw [Node.child?, List.find?_isSome]
  exact ⟨m, hm, by simp [hrole]⟩

/-- What `outerDeclaration` reads has a name if it is a function. -/
lemma yields_outerDeclaration (phrase : Phrases) :
    (outerDeclaration phrase).Yields HasNameIfFunction := by
  have hother {kind : Kind} (hk : kind ≠ .functionDeclaration) (p : Parts) :
      (construct kind p).Yields HasNameIfFunction :=
    (yields_kind_construct kind p).mono fun n h hfun => absurd (h ▸ hfun) hk
  refine yields_orElse (hother (by decide) _) (yields_orElse (hother (by decide) _)
    (yields_orElse ?_ (hother (by decide) _)))
  exact (yields_functionDeclaration phrase).mono fun n h _ => h

/-- Every node that `fileParts` reads has a name if it is a function. -/
lemma yields_fileParts (depth : Nat) :
    (fileParts (phraseWithin depth)).Yields fun ns => ∀ n ∈ ns, HasNameIfFunction n := by
  have hcomment {ns : List Node} (h : ∀ n ∈ ns, n.kind = .comment) :
      ∀ n ∈ ns, HasNameIfFunction n :=
    fun n hn hfun => absurd ((h n hn).symm.trans hfun) (by decide)
  have happend (ns ms : List Node) (hns : ∀ n ∈ ns, HasNameIfFunction n)
      (hms : ∀ n ∈ ms, HasNameIfFunction n) : ∀ n ∈ ns ++ ms, HasNameIfFunction n :=
    fun n hn => (List.mem_append.mp hn).elim (hns n) (hms n)
  have hpart {p : Parser Node} (hp : p.Yields HasNameIfFunction) :
      (part .free none p).Yields fun ns => ∀ n ∈ ns, HasNameIfFunction n := by
    refine (yields_part hp).mono ?_
    rintro _ ⟨comments, n, rfl, hn, hcomments⟩
    exact happend _ _ (hcomment hcomments) (by simpa using hn.withRole none)
  have hentry : (outerEntry (phraseWithin depth)).Yields
      fun ns => ∀ n ∈ ns, HasNameIfFunction n := by
    refine hpart fun c r hr => ?_
    rcases List.mem_append.mp (Reading.mem_of_mem_heaviest hr) with hr | hr
    · exact yields_outerDeclaration _ c r hr
    · unfold outerEntry.outerStatement at hr
      split at hr
      · simp at hr
      · exact fun hfun => absurd hfun
          (yields_guarding (yields_phraseWithin_statement depth .outermost) c r hr)
  refine yields_append (yields_append (yields_many ?_ (by simp) happend)
    (yields_optional (hpart (yields_outerDeclaration _)) (by simp)) happend)
    ((yields_comments .free).mono fun _ => hcomment) happend
  exact yields_append hentry (yields_terminator.mono fun _ => hcomment) happend

/-- Every function `d` at the top level of a parsed file has a name. -/
lemma SourceFile.isSome_name_of_parse {t : Text} {f : SourceFile}
    (h : SourceFile.parse t = .ok f) {d : Node} (hd : d ∈ f.root.children)
    (hk : d.kind = .functionDeclaration) : (d.child? .name).isSome = true := by
  have hroot : parseFile? t = some f.root := by
    unfold SourceFile.parse at h
    split at h
    · simp at h
    · next root hroot =>
      split at h
      · simp at h
      · cases h
        exact hroot
  obtain ⟨r, hr, hf⟩ := Option.map_eq_some_iff.mp hroot
  have hmem := Reading.mem_of_mem_heaviest (List.mem_of_mem_head? hr)
  refine yields_fileParts _ _ r (List.mem_filter.mp hmem).1 d ?_ hk
  rw [← hf] at hd
  exact hd

end RouteStubs.Syntax
