import RouteStubs.Proofs.Syntax.Quoting
import RouteStubs.Proofs.Syntax.Signatures
import RouteStubs.Syntax.Expressions

/-!
# Readings of operands

How names and literals, members, calls and elements are read. An operand grows by one suffix after
the other, and what it can be is kept in a view; `Ripens` says that a view of a given sort ends as
one tree once all suffixes of a text have been taken up. An expression without operators is its
operand.
-/

namespace RouteStubs.Syntax.Expressions

open RouteStubs.Syntax.Parser Token Node

variable {phrase : Phrases} {p : Place} {t u rest : Text} {m : Node}

/-! ## Trees -/

/-- The tree of the member `field` of `operand`. -/
def memberTree (operand : Node) (field : Text) : Node :=
  .branch .selectorExpression ⟨0, 0⟩
    [operand.withRole (some .operand), (Node.leaf .fieldIdentifier 0 field).withRole (some .field)]

/-- The tree of the arguments of a call with the one `argument`. -/
def argumentTree (argument : Node) : Node :=
  .branch .argumentList ⟨0, 0⟩ [argument.withRole none]

/-- The tree of a call of `function` with one `argument`. -/
def callTree (function argument : Node) : Node :=
  .branch .callExpression ⟨0, 0⟩
    [function.withRole (some .function), (argumentTree argument).withRole (some .arguments)]

/-- The tree of the element of `operand` at `index`. -/
def elementTree (operand index : Node) : Node :=
  .branch .indexExpression ⟨0, 0⟩
    [operand.withRole (some .operand), index.withRole (some .index)]

/-! ## Sorts of views -/

/-- The view `v` of the name `m`, which can be a value or a type. -/
def View.IsName (m : Node) (v : View) : Prop :=
  ∃ n, v = .ofName n ∧ Alike m n

/-- The view `v` of the member `m`, which can be a value or a qualified type. -/
def View.IsMember (m : Node) (v : View) : Prop :=
  ∃ n type, v = ⟨some (n, 0), some (type, 0), none⟩ ∧ Alike m n

/-- The view `v` of the value `m`. -/
def View.IsValue (m : Node) (v : View) : Prop :=
  ∃ n, v = .ofExpression n 0 ∧ Alike m n

/-- A view of a name has the name for its `expression`. -/
lemma View.IsName.expression {v : View} (h : v.IsName m) :
    ∃ n, v.expression = some (n, 0) ∧ Alike m n := by
  obtain ⟨n, rfl, hn⟩ := h
  exact ⟨n, rfl, hn⟩

/-- A view of a value has the value for its `expression`. -/
lemma View.IsValue.expression {v : View} (h : v.IsValue m) :
    ∃ n, v.expression = some (n, 0) ∧ Alike m n := by
  obtain ⟨n, rfl, hn⟩ := h
  exact ⟨n, rfl, hn⟩

/-- Where `t` remains, `suffixes` reads every view with the property `V` on to the tree `m`, and
leaves `rest`. -/
def Ripens (phrase : Phrases) (p : Place) (V : View → Prop) (t rest : Text) (m : Node) : Prop :=
  ∀ (start : Nat) (bound : Text) (v : View), V v → t.length ≤ bound.length →
    Reads (suffixes phrase start p bound v) t rest (Alike m)

/-- A view `v` that is `ended` is read as its `expression`, and nothing is taken from `t`. -/
lemma reads_ended {v : View} {n : Node} (hv : v.expression = some (n, 0)) (hn : Alike m n)
    (t : Text) : Reads v.ended t t (Alike m) := by
  intro o
  exact ⟨n, o, by simp [View.ended, hv], rfl, hn⟩

/-- Where `suffix` finds none in the gap that follows, `suffixes` ends the view `v`. -/
lemma suffixes_of_suffix_eq_none (start : Nat) (bound : Text) (v : View) (c : Cursor)
    (h : ∀ w before, suffix phrase start p w before (c.gap .free).2 = none) :
    suffixes phrase start p bound v c = v.ended c := by
  cases bound with
  | nil => rfl
  | cons b bound => simp only [suffixes, h]

/-- Only a dot, an opening bracket, parenthesis or brace begins a `suffix`. -/
lemma suffix_eq_none (start : Nat) (v : View) (before : List Node) (c : Cursor)
    (h : ∀ d ∈ c.rest.head?, d ∉ ['.', '[', '(', '\x7b']) :
    suffix phrase start p v before c = none := by
  unfold suffix
  split
  · rfl
  · split
    all_goals first | rfl | (next heq => simp [heq] at h)

/-- A view whose `expression` is `m` is read as `m`, with nothing taken from `t`, if blanks and then
none of the marks that begin a suffix follow in `t`. -/
lemma ripens_of_clear {V : View → Prop}
    (hV : ∀ v, V v → ∃ n, v.expression = some (n, 0) ∧ Alike m n)
    (ht : Clear .free t u) (hu : ∀ d ∈ u.head?, d ∉ ['.', '[', '(', '\x7b']) :
    Ripens phrase p V t t m := by
  intro start bound v hv _ o
  obtain ⟨n, hn, hm⟩ := hV v hv
  obtain ⟨o', hgap, -⟩ := ht o
  rw [suffixes_of_suffix_eq_none]
  · exact reads_ended hn hm t o
  · intro w before
    rw [hgap]
    exact suffix_eq_none start w before _ hu

/-- A view of the value `m` is read as `m` at the end of its line, where line breaks end
expressions. -/
lemma ripens_of_newline (hp : p.endsWithLine = true) (t : Text) :
    Ripens phrase p (View.IsValue m) ('\n' :: t) ('\n' :: t) m := by
  rintro start bound _ ⟨n, rfl, hn⟩ _ o
  have hended := reads_ended (v := .ofExpression n 0) rfl hn ('\n' :: t) o
  obtain ⟨o', hgap, -⟩ := clear_newline t o
  cases bound with
  | nil => exact hended
  | cons b bound =>
    have hvoid : (View.ofExpression n 0).acrossLine.isVoid = true := rfl
    simpa [suffixes, hp, hgap, suffix, hvoid] using hended

/-- Where `t` remains, there is a suffix that leaves `rest`, and it turns views of the one sort into
views of the other. -/
def Extends (phrase : Phrases) (p : Place) (V : View → Prop) (t rest : Text) (W : View → Prop) :
    Prop :=
  ∀ (start : Nat) (v : View), V v → ∀ o, ∃ w o',
    suffix phrase start p v [] ⟨o, t⟩ = some [⟨w, 0, ⟨o', rest⟩⟩] ∧
      o' + rest.length = o + t.length ∧ W w

/-- If one suffix leads from views with the property `V` to views with the property `W`, and these
are read on to `m`, then so are the former. -/
lemma Extends.ripens {V W : View → Prop} {c : Char} (hsuffix : Extends phrase p V (c :: t) u W)
    (hc : (!Token.isBlank c && c != '/') = true) (hblock : c ≠ '\x7b')
    (hlength : u.length ≤ t.length) (h : Ripens phrase p W u rest m) :
    Ripens phrase p V (c :: t) rest m := by
  intro start bound v hv hbound o
  cases bound with
  | nil => simp at hbound
  | cons b bound =>
    have hmeets (s : Spacing) : Meets s (c :: t) (c :: t) := meets_cons hc t
    obtain ⟨o₁, hfree, ho₁⟩ := (hmeets .free).clear o
    obtain ⟨o₂, hline, -⟩ := (hmeets .sameLine).clear o
    obtain rfl : o₁ = o := by omega
    obtain ⟨w, o₃, hw, ho₃, hW⟩ := hsuffix start v hv o₁
    obtain ⟨n, o₄, hn, ho₄, hm⟩ := h start bound w hW
      (by simp only [List.length_cons] at hbound; omega) o₃
    have hnewline : (some c == some '\n') = false := by
      simpa using (hmeets .free).ne_newline
    have hbrace : (some c == some '\x7b') = false := by
      simpa using hblock
    refine ⟨n, o₄, ?_, ho₄.trans ho₃, hm⟩
    simp [suffixes, hfree, hline, hnewline, hbrace, hw, hn, Reading.heaviest, Reading.enter]

/-! ## Suffixes -/

/-- The member `w` of a name is read by `member`, behind the dot. -/
lemma reads_member {w : Text} (hw : IsWord w) (hu : Stops u) (start : Nat) {v : View}
    (hv : v.IsName m) :
    Reads (member start v []) (w ++ u) u (View.IsMember (memberTree m w)) := by
  obtain ⟨n, rfl, hn⟩ := hv
  intro o
  obtain ⟨o₁, hgap, ho₁⟩ := (meets_word (s := .free) hw u).clear o
  have hread : Reads (name .fieldIdentifier []) (w ++ u) u (Alike (.leaf .fieldIdentifier 0 w)) :=
    reads_name hw hu .fieldIdentifier rfl
  obtain ⟨field, o₂, hname, ho₂, hfield⟩ := hread o₁
  let selected : Node := around start .selectorExpression
    [n.withRole (some .operand), field.withRole (some .field)] ⟨o₂, u⟩
  let qualified : Node := around start .qualifiedType
    [((n.withKind .typeIdentifier).withKind .packageIdentifier).withRole (some .package),
      (field.withKind .typeIdentifier).withRole (some .name)] ⟨o₂, u⟩
  refine ⟨⟨some (selected, 0), some (qualified, 0), none⟩, o₂, ?_, ho₂.trans ho₁, selected,
    qualified, rfl, ((hn.withRole _).cons (hfield.withRole _).parts).branch _ _ _⟩
  simp [member, hgap, hname, View.ofName, Node.withKind, selected, qualified]

/-- The member `w` of a name is a suffix that turns it into a `View.IsMember`. -/
lemma extends_member {w : Text} (hw : IsWord w) (hu : Stops u) :
    Extends phrase p (View.IsName m) ('.' :: (w ++ u)) u (View.IsMember (memberTree m w)) := by
  intro start v hv o
  obtain ⟨v', o', hmember, ho', hv'⟩ := reads_member hw hu start hv (o + 1)
  refine ⟨v', o', ?_, by rw [ho', List.length_cons]; omega, hv'⟩
  rw [← hmember]
  obtain ⟨n, rfl, -⟩ := hv
  obtain ⟨o₁, hgap, -⟩ := (meets_word (s := .free) hw u).clear (o + 1)
  obtain ⟨c, cs, rfl, hc, -⟩ := hw.exists_cons
  have hdot : c ≠ '.' := ne_of_isIdentifierStart hc (by decide)
  have hopen : c ≠ '(' := ne_of_isIdentifierStart hc (by decide)
  rw [List.cons_append] at hgap ⊢
  simp [suffix, View.isVoid, View.ofName, Cursor.past, hgap, hdot, hopen]

/-- An argument `n` in front of the closing parenthesis is not spread. -/
lemma reads_argument {n : Node}
    (hn : Reads (phrase (.expression .inner)) t (')' :: u) (Alike n)) :
    Reads (argument phrase) t (')' :: u) (Alike n) := by
  intro o
  obtain ⟨a, o', heq, ho', ha⟩ := hn o
  have hspread : Fails (mark .free "...") (')' :: u) :=
    fails_mark (by decide) (meets_cons (by decide) u)
  exact ⟨a, o', by simp [argument, heq, hspread o'], ho', ha⟩

/-- The arguments of a call with one argument are read as `argumentTree n`. -/
lemma reads_arguments {n : Node}
    (hn : Reads (phrase (.expression .inner)) t (')' :: u) (Alike n)) (ht : Meets .free t t) :
    Reads (arguments phrase) ('(' :: t) u (Alike (argumentTree n)) := by
  have hopen : Reads (mark .free "(") ('(' :: t) t (AlikeParts []) :=
    reads_mark_cons (by decide) rfl (by decide) t
  have hcomma : Fails (mark .free ",") (')' :: u) :=
    fails_mark (by decide) (meets_cons (by decide) u)
  have hclose : Reads (mark .free ")") (')' :: u) u (AlikeParts []) :=
    reads_mark_cons (by decide) rfl (by decide) u
  have hlist : Reads (separated (part .free none (argument phrase))) t (')' :: u) _ :=
    ((reads_argument hn).part ht none).append (hcomma.append _).repeats.many
  exact ((hopen.append (hlist.append hcomma.optional).optional).append hclose).construct
    .argumentList

/-- Of a conversion and a call the call, `callTree m n`, is heavier. -/
lemma reads_call {n : Node}
    (hn : Reads (phrase (.expression .inner)) t (')' :: u) (Alike n)) (ht : Meets .free t t)
    (start : Nat) {v : View} (hv : v.IsMember m) :
    Reads (call phrase start v []) ('(' :: t) u (View.IsValue (callTree m n)) := by
  obtain ⟨f, type, rfl, hf⟩ := hv
  intro o
  obtain ⟨a, o', heq, ho', ha⟩ := reads_arguments hn ht o
  refine ⟨_, o', ?_, ho', around start .callExpression
    [f.withRole (some .function), a.withRole (some .arguments)] ⟨o', u⟩, rfl,
    ((hf.withRole _).cons (ha.withRole _).parts).branch _ _ _⟩
  cases hsingle : singleOperand a <;> cases halone : standsAlone type <;>
    simp [call, heq, hsingle, halone, heaviestOf, View.ofExpression, Option.filter]

/-- A call with one argument is a suffix that turns a member into a `View.IsValue`. -/
lemma extends_call {n : Node}
    (hn : Reads (phrase (.expression .inner)) t (')' :: u) (Alike n)) (ht : Meets .free t t) :
    Extends phrase p (View.IsMember m) ('(' :: t) u (View.IsValue (callTree m n)) := by
  intro start v hv o
  obtain ⟨v', o', hcall, ho', hv'⟩ := reads_call hn ht start hv o
  refine ⟨v', o', ?_, ho', hv'⟩
  obtain ⟨f, type, rfl, -⟩ := hv
  simp [suffix, View.isVoid, hcall]

/-- An index `n` between brackets. -/
lemma reads_indexOrBounds {n : Node}
    (hn : Reads (phrase (.expression .inner)) t (']' :: u) (Alike n)) (ht : Meets .free t t) :
    Reads (indexOrBounds phrase) ('[' :: t) u fun i =>
      i.1 = .indexExpression ∧ AlikeParts [n.withRole (some .index)] i.2 := by
  have hopen : Reads (mark .free "[") ('[' :: t) t (AlikeParts []) :=
    reads_mark_cons (by decide) rfl (by decide) t
  have hclose : Reads (mark .free "]") (']' :: u) u (AlikeParts []) :=
    reads_mark_cons (by decide) rfl (by decide) u
  have hindex := (hn.part ht (some .index)).optional
  unfold indexOrBounds
  refine hopen.andThen fun opened hopened => hindex.andThen fun first hfirst => ?_
  have hsome : first.isEmpty = false := by
    cases first with
    | nil => simp [AlikeParts, unplacedParts] at hfirst
    | cons f fs => rfl
  refine Reads.orElse_left ?_ _
  simp only [hsome, Bool.false_eq_true, if_false]
  exact hclose.andThen fun closed hclosed =>
    reads_done ⟨rfl, (hopened.append hfirst).append hclosed⟩ u

/-- An index `n` that is no type leads to an element. -/
lemma reads_brackets {n : Node}
    (hn : Reads (phrase (.expression .inner)) t (']' :: u) (Alike n))
    (htype : Fails (phrase (.type .free)) t) (ht : Meets .free t t) (start : Nat) {v : View}
    (hv : v.IsValue m) :
    Reads (brackets phrase start v []) ('[' :: t) u (View.IsValue (elementTree m n)) := by
  obtain ⟨e, rfl, he⟩ := hv
  intro o
  obtain ⟨⟨kind, i⟩, o', heq, ho', rfl, hi⟩ := reads_indexOrBounds hn ht o
  have hopen : Reads (mark .free "[") ('[' :: t) t (AlikeParts []) :=
    reads_mark_cons (by decide) rfl (by decide) t
  have helement : Fails (Types.typeElement phrase .free) t :=
    ((htype.part ht none).append _).construct _
  have harguments : Fails (Types.typeArguments phrase) ('[' :: t) :=
    ((((hopen.append_fails ((helement.part ht none).append _)).append _).append _).construct
      _).weigh 2
  refine ⟨_, o', ?_, ho', around start .indexExpression (e.withRole (some .operand) :: i) ⟨o', u⟩,
    rfl, ((he.withRole _).cons hi).branch _ _ _⟩
  simp [brackets, View.ofExpression, heq, harguments o, heaviestOf, List.eraseDups_cons]

/-- An element of a value is a suffix that turns it into a `View.IsValue`. -/
lemma extends_element {n : Node}
    (hn : Reads (phrase (.expression .inner)) t (']' :: u) (Alike n))
    (htype : Fails (phrase (.type .free)) t) (ht : Meets .free t t) :
    Extends phrase p (View.IsValue m) ('[' :: t) u (View.IsValue (elementTree m n)) := by
  intro start v hv o
  obtain ⟨v', o', hbrackets, ho', hv'⟩ := reads_brackets hn htype ht start hv o
  refine ⟨v', o', ?_, ho', hv'⟩
  obtain ⟨e, rfl, -⟩ := hv
  simp [suffix, View.isVoid, View.ofExpression, ← hbrackets]

/-! ## Operands -/

/-- The letters of the alphabet come after the digits. -/
lemma le_toNat_of_isAlpha {c : Char} (h : c.isAlpha = true) : 65 ≤ c.val.toNat := by
  rcases (Bool.or_eq_true _ _).mp h with hupper | hlower
  · exact UInt32.le_iff_toNat_le.mp (of_decide_eq_true hupper).1
  · obtain ⟨hleast, -⟩ := (Bool.and_eq_true _ _).mp hlower
    have hsmall : 97 ≤ c.val.toNat := UInt32.le_iff_toNat_le.mp (of_decide_eq_true hleast)
    omega

/-- A digit does not begin a word. -/
lemma isDigit_eq_false_of_isIdentifierStart {c : Char} (h : Text.isIdentifierStart c = true) :
    c.isDigit = false := by
  rw [Bool.eq_false_iff]
  intro hdigit
  obtain ⟨-, hmost⟩ := (Bool.and_eq_true _ _).mp hdigit
  have hmost : c.val.toNat ≤ 57 := UInt32.le_iff_toNat_le.mp (of_decide_eq_true hmost)
  simp only [Text.isIdentifierStart, Bool.or_eq_true, Bool.and_eq_true, decide_eq_true_eq,
    beq_iff_eq] at h
  rcases h with (hletter | rfl) | ⟨h, -⟩
  · have hleast := le_toNat_of_isAlpha hletter
    omega
  · exact absurd hmost (by decide)
  · change 128 ≤ c.val.toNat at h
    omega

/-- No literal begins where a word `w` begins. -/
lemma fails_literal_of_word {w : Text} (hw : IsWord w) (t : Text) :
    Fails Parser.literal (w ++ t) := by
  obtain ⟨c, cs, rfl, hc, -⟩ := hw.exists_cons
  have hquote : c ≠ '"' := ne_of_isIdentifierStart hc (by decide)
  have hrune : c ≠ '\'' := ne_of_isIdentifierStart hc (by decide)
  have hraw : c ≠ backquote := ne_of_isIdentifierStart hc (by decide)
  have hpoint : c ≠ '.' := ne_of_isIdentifierStart hc (by decide)
  intro o
  simp [Parser.literal, Token.literal, hraw, hpoint, isDigit_eq_false_of_isIdentifierStart hc]

/-- The first part of an operand that begins with a word `w` is a `wordOperand`. -/
lemma primary_of_word {w : Text} (hw : IsWord w) (t : Text) (o : Nat) :
    primary phrase p ⟨o, w ++ t⟩ = wordOperand phrase p ⟨o, w ++ t⟩ := by
  have hliteral := fails_literal_of_word hw t o
  obtain ⟨c, cs, rfl, hc, -⟩ := hw.exists_cons
  rw [List.cons_append] at hliteral ⊢
  unfold primary
  split
  case h_5 => rw [hliteral]
  all_goals
    next heq =>
    cases heq
    exact absurd hc (by decide)

/-- A name `w` is the first part of an operand. -/
lemma reads_primary_name {w : Text} (hw : IsWord w) (hu : Stops u)
    (htype : (typeWords.any fun k => w = k.toList) = false)
    (hvalue : (valueWords.any fun k => w = k.toList) = false) :
    Reads (primary phrase p) (w ++ u) u (View.IsName (.leaf .identifier 0 w)) := by
  intro o
  refine ⟨.ofName (.leaf .identifier o w), o + w.length, ?_, ?_, _, rfl, alike_leaf _ _ _ _⟩
  · have hfunc : w ≠ "func".toList := by
      rintro rfl
      exact absurd htype (by decide)
    simp only [valueWords, List.any_cons, List.any_nil, Bool.or_false, Bool.or_eq_false_iff,
      decide_eq_false_iff_not] at hvalue
    obtain ⟨hnew, hmake, hnil, htrue, hfalse, hiota⟩ := hvalue
    have hliteral : wordLiterals.find? (fun l => w = l.1.toList) = none := by
      simp only [wordLiterals, List.find?_cons, hnil, htrue, hfalse, hiota, decide_false,
        List.find?_nil]
    rw [primary_of_word hw]
    simp only [wordOperand, word_append hw hu, hfunc, htype, hnew, hmake, hliteral, if_false,
      decide_false, Bool.or_self, Bool.false_eq_true, Cursor.past]
  · rw [List.length_append]
    omega

/-- The literal of a text `k` is read by `literal`. -/
lemma reads_literal_quote (k u : Text) :
    Reads Parser.literal (StringLiteral.quote k ++ u) u
      (Alike (.leaf .interpretedStringLiteral 0 (StringLiteral.quote k))) := by
  have hstring : Token.literal (StringLiteral.quote k ++ u) =
      some (.interpretedStringLiteral, StringLiteral.quote k, u) := by
    have htoken := interpretedString_quote k u
    rw [StringLiteral.quote_append] at htoken ⊢
    simp [Token.literal, htoken]
  intro o
  refine ⟨.leaf .interpretedStringLiteral o (StringLiteral.quote k),
    o + (StringLiteral.quote k).length, ?_, ?_, alike_leaf _ _ _ _⟩
  · simp [Parser.literal, hstring, Cursor.past]
  · rw [List.length_append]
    omega

/-- The literal of a text `k` is the first part of an operand. -/
lemma reads_primary_quote (k u : Text) :
    Reads (primary phrase p) (StringLiteral.quote k ++ u) u
      (View.IsValue (.leaf .interpretedStringLiteral 0 (StringLiteral.quote k))) := by
  intro o
  obtain ⟨n, o', heq, ho', hn⟩ := reads_literal_quote k u o
  refine ⟨.ofExpression n 0, o', ?_, ho', n, rfl, hn⟩
  rw [StringLiteral.quote_append] at heq ⊢
  simp [primary, heq]

/-- An operand whose first part has the property `V`, and whose suffixes read it on to `m`, is read
as `m`. -/
lemma Ripens.reads {V : View → Prop} (h : Ripens phrase p V u rest m)
    (hprimary : Reads (primary phrase p) t u V) : Reads (suffixed phrase p) t rest (Alike m) := by
  intro o
  obtain ⟨v, o₁, heq₁, ho₁, hv⟩ := hprimary o
  obtain ⟨n, o₂, heq₂, ho₂, hn⟩ := h o u v hv (Nat.le_refl _) o₁
  exact ⟨n, o₂, by simp [suffixed, heq₁, heq₂], ho₂.trans ho₁, hn⟩

/-- Without an operator in front, an `operand` is `suffixed`. -/
lemma operand_eq_suffixed {c : Char} (hc : c ∉ ['+', '-', '!', '^', '&', '*', '<']) (t : Text)
    (o : Nat) : operand phrase p ⟨o, c :: t⟩ = suffixed phrase p ⟨o, c :: t⟩ := by
  unfold operand
  split
  all_goals first | rfl | (next heq => simp_all)

/-- An operand that begins with a name `w` is read as its suffixes read it on. -/
lemma reads_operand_name {w : Text} (hw : IsWord w) (hu : Stops u)
    (htype : (typeWords.any fun k => w = k.toList) = false)
    (hvalue : (valueWords.any fun k => w = k.toList) = false)
    (h : Ripens phrase p (View.IsName (.leaf .identifier 0 w)) u rest m) :
    Reads (operand phrase p) (w ++ u) rest (Alike m) := by
  have hsuffixed := h.reads (reads_primary_name hw hu htype hvalue)
  intro o
  obtain ⟨c, cs, rfl, hc, -⟩ := hw.exists_cons
  have hmark : c ∉ ['+', '-', '!', '^', '&', '*', '<'] := by
    have hmarks : ['+', '-', '!', '^', '&', '*', '<'].all
        (fun d => !Text.isIdentifierStart d) = true := by
      decide
    intro hmem
    have hc' : (!Text.isIdentifierStart c) = true := List.all_eq_true.mp hmarks c hmem
    simp [hc] at hc'
  rw [List.cons_append] at hsuffixed ⊢
  rw [operand_eq_suffixed hmark]
  exact hsuffixed o

/-- An operand that begins with the literal of a text `k` is read as its suffixes read it on. -/
lemma reads_operand_quote {k : Text}
    (h : Ripens phrase p
      (View.IsValue (.leaf .interpretedStringLiteral 0 (StringLiteral.quote k))) u rest m) :
    Reads (operand phrase p) (StringLiteral.quote k ++ u) rest (Alike m) := by
  have hsuffixed := h.reads (reads_primary_quote k u)
  intro o
  rw [StringLiteral.quote_append] at hsuffixed ⊢
  rw [operand_eq_suffixed (by decide)]
  exact hsuffixed o

/-- An expression without binary operators is its operand. -/
lemma reads_expression (h : Reads (phrase (.operand p)) t rest (Alike m))
    (hrest : Clear p.spacing rest u) (hop : binaryOperator p u = none) :
    Reads (expression phrase p) t rest (Alike m) := by
  refine Reads.heaviest fun o => ?_
  obtain ⟨n, o₁, heq, ho₁, hn⟩ := h o
  obtain ⟨o₂, hgap, -⟩ := hrest o₁
  have hdone : operators phrase o p rest 1 n ⟨o₁, rest⟩ = [⟨n, 0, ⟨o₁, rest⟩⟩] := by
    cases rest with
    | nil => rfl
    | cons c rest => simp [operators, hgap, hop, done]
  exact ⟨n, o₁, by simp [heq, hdone], ho₁, hn⟩

/-- The literal of a text begins a token. -/
lemma meets_quote {s : Spacing} (k t : Text) :
    Meets s (StringLiteral.quote k ++ t) (StringLiteral.quote k ++ t) := by
  rw [StringLiteral.quote_append]
  exact meets_cons (by decide) _

/-! ## Places without operands -/

/-- Without a first part, its `primary`, there is no operand. -/
lemma fails_suffixed (h : Fails (primary phrase p) t) : Fails (suffixed phrase p) t := by
  intro o
  simp [suffixed, h o]

/-- No operand begins at the end of a text. -/
lemma fails_operand_nil : Fails (operand phrase p) [] := by
  intro o
  rfl

/-- No operand begins at a closing brace. -/
lemma fails_operand_brace (t : Text) : Fails (operand phrase p) ('\x7d' :: t) := by
  intro o
  rw [operand_eq_suffixed (by decide)]
  refine fails_suffixed (fun o => ?_) o
  have hword : word ('\x7d' :: t) = none := word_cons_eq_none (by decide) t
  have hliteral : Token.literal ('\x7d' :: t) = none := rfl
  simp [primary, Parser.literal, hliteral, wordOperand, hword]

/-- No operand begins with the word `func` in front of another word. -/
lemma fails_operand_func {w : Text} (hw : IsWord w) (t : Text) :
    Fails (operand phrase p) (lit "func" ++ ' ' :: (w ++ t)) := by
  have hfunc : IsWord (lit "func") := by decide
  have hstops : Stops (' ' :: (w ++ t)) := stops_cons (by decide) _
  have hkeyword : Reads (keyword .free "func") (lit "func" ++ ' ' :: (w ++ t)) (' ' :: (w ++ t))
      (AlikeParts []) := reads_keyword hfunc hstops (meets_word hfunc _)
  have hopen : Fails (mark .free "(") (w ++ t) :=
    fails_mark_of_word (by decide) hw (meets_word hw t)
  have hparameters : Fails (Types.parameters phrase) (w ++ t) :=
    ((((hopen.append _).append _).append _).construct _).heaviest
  have hpart : Fails (part .free (some .parameters) (Types.parameters phrase)) (' ' :: (w ++ t)) :=
    hparameters.part ((meets_word hw t).blank (by decide)) _
  have hsignature := (hkeyword.append_fails hpart).append (Types.result phrase [] .free)
  have hprimary : Fails (primary phrase p) (lit "func" ++ ' ' :: (w ++ t)) := by
    intro o
    rw [primary_of_word hfunc]
    simp only [wordOperand, word_append hfunc hstops, if_true, functionOperand, hsignature o,
      List.flatMap_nil]
  intro o
  exact (operand_eq_suffixed (by decide) _ o).trans (fails_suffixed hprimary o)

/-- Without an operand there is no expression. -/
lemma fails_expression (h : Fails (phrase (.operand p)) t) : Fails (expression phrase p) t :=
  Fails.heaviest fun o => by simp [h o]

end RouteStubs.Syntax.Expressions
