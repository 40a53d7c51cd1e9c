import RouteStubs.Proofs.Syntax.Forks
import RouteStubs.Syntax.Types

/-!
# Readings of types and parameters

How qualified names, pointers to them and lists of named parameters are read. A parameter has two
readings: the one with a name and a type, and the one that takes the name for a type and stops
behind it. Only the first goes on to the end of the list.
-/

namespace RouteStubs.Syntax.Types

open RouteStubs.Syntax.Parser Token Node

variable {t u rest : Text}

/-! ## Trees -/

/-- The tree of the type `name` of `package`. -/
def qualifiedTree (package name : Text) : Node :=
  .branch .qualifiedType ⟨0, 0⟩
    [(Node.leaf .packageIdentifier 0 package).withRole (some .package),
      (Node.leaf .typeIdentifier 0 name).withRole (some .name)]

/-- The tree of a pointer to the type `target`. -/
def pointerTree (target : Node) : Node :=
  .branch .pointerType ⟨0, 0⟩ [target.withRole none]

/-- The tree of the parameter `name`. -/
def parameterTree (name : Text) (type : Node) : Node :=
  .branch .parameterDeclaration ⟨0, 0⟩
    [(Node.leaf .identifier 0 name).withRole (some .name), type.withRole (some .type)]

/-! ## Types -/

/-- A type that begins with a word `w` begins with none of the marks. -/
lemma type_of_word (phrase : Phrases) (s : Spacing) {w : Text} (hw : IsWord w) (o : Nat)
    (t : Text) :
    type phrase s ⟨o, w ++ t⟩ =
      (namedType phrase s <|> structType phrase <|> interfaceType phrase <|> mapType phrase s <|>
        channelType phrase s <|> functionType phrase s) ⟨o, w ++ t⟩ := by
  obtain ⟨c, cs, rfl, hc, -⟩ := hw.exists_cons
  rw [List.cons_append]
  unfold type
  split
  case h_6 => rfl
  all_goals
    next heq =>
    cases heq
    exact absurd hc (by decide)

/-- Where no word begins, there is no name of a type. -/
lemma fails_namedType (phrase : Phrases) (s : Spacing) (hmeets : Meets .free t t)
    (hnone : word t = none) : Fails (namedType phrase s) t := by
  have hname (kind : Kind) : Fails (name kind typeWords) t := fails_name hnone kind typeWords
  have hqualified : Fails (qualifiedType typeWords s) t :=
    ((((hname _).part hmeets _).append _).append _).construct _
  have happlied : Fails (applied phrase s (typeName typeWords s)) t :=
    ((((hqualified.orElse (hname _)).part hmeets _).append _).construct _).weigh 1
  exact happlied.either (hqualified.orElse ((hname _).weigh (-1)))

/-- No type begins with a character `c` that begins neither a word nor a type. -/
lemma fails_type (phrase : Phrases) (s : Spacing) {c : Char}
    (hc : (!Token.isBlank c && c != '/') = true) (hword : Text.isIdentifierStart c = false)
    (hmark : c ∉ ['*', '~', '(', '[', '<']) (t : Text) : Fails (type phrase s) (c :: t) := by
  have hmeets : Meets .free (c :: t) (c :: t) := meets_cons hc t
  have hnone : word (c :: t) = none := word_cons_eq_none hword t
  have hkeyword (k : String) : Fails (keyword .free k) (c :: t) :=
    fails_keyword (by simp [hnone]) hmeets
  simp only [List.mem_cons, List.not_mem_nil, or_false, not_or] at hmark
  have hsend : Fails (mark .free "<-") (c :: t) :=
    fails_mark (by simpa using Ne.symm hmark.2.2.2.2) hmeets
  have hchannel : Fails (channelType phrase s) (c :: t) := by
    refine Fails.construct (Fails.orElse ?_ (Fails.orElse ?_ ?_)) _
    · exact (hkeyword _).append _
    · exact ((hkeyword _).append _).append _
    · exact (hsend.append _).append _
  have hall : Fails (namedType phrase s <|> structType phrase <|> interfaceType phrase <|>
      mapType phrase s <|> channelType phrase s <|> functionType phrase s) (c :: t) := by
    refine (fails_namedType phrase s hmeets hnone).orElse (Fails.orElse ?_ (Fails.orElse ?_
      (Fails.orElse ?_ (hchannel.orElse ?_))))
    · exact ((hkeyword _).append _).construct _
    · exact ((((hkeyword _).append _).append _).append _).construct _
    · exact (((((hkeyword _).append _).append _).append _).append _).construct _
    · exact (((hkeyword _).append _).append _).construct _
  intro o
  unfold type
  split
  case h_6 => exact hall o
  all_goals simp_all

/-- A `name` in a `package` is read by `qualifiedType`. -/
lemma reads_qualifiedType {package name : Text} (hp : IsWord package) (hn : IsWord name)
    (hrest : Stops rest) {keywords : List String}
    (hk : (keywords.any fun k => package = k.toList) = false) (s : Spacing) :
    Reads (qualifiedType keywords s) (package ++ '.' :: (name ++ rest)) rest
      (Alike (qualifiedTree package name)) := by
  have hpackage : Reads (part .free (some .package) (Parser.name .packageIdentifier keywords))
      (package ++ '.' :: (name ++ rest)) ('.' :: (name ++ rest)) _ :=
    (reads_name hp (stops_cons (by decide) _) .packageIdentifier hk).part (meets_word hp _) _
  have hdot : Reads (mark s ".") ('.' :: (name ++ rest)) (name ++ rest) (AlikeParts []) :=
    reads_dot (hn.head?_ne (by decide) rest) (meets_cons (by decide) _)
  have hname : Reads (part .free (some .name) (Parser.name .typeIdentifier [])) (name ++ rest)
      rest _ :=
    (reads_name hn hrest .typeIdentifier rfl).part (meets_word hn _) _
  exact ((hpackage.append hdot).append hname).construct .qualifiedType

/-- Without an opening bracket behind it, nothing is `applied` to type arguments. -/
lemma fails_applied {base : Parser Node} {m : Node} (phrase : Phrases) {s : Spacing}
    (hbase : Reads base t rest (Alike m)) (ht : Meets .free t t) (hrest : Meets s rest u)
    (hnext : Fails (mark .free "[") u) : Fails (applied phrase s base) t := by
  have harguments : Fails (typeArguments phrase) u :=
    ((((hnext.append _).append _).append _).construct _).weigh 2
  exact (((hbase.part ht _).append_fails (harguments.part hrest _)).construct _).weigh 1

/-- A type that is given by a `name` in a `package` and not applied to anything. -/
lemma reads_type_qualified (phrase : Phrases) {s : Spacing} {package name : Text}
    (hp : IsWord package) (hn : IsWord name) (hstops : Stops rest)
    (hk : (typeWords.any fun k => package = k.toList) = false) (hrest : Meets s rest u)
    (hnext : Fails (mark .free "[") u) :
    Reads (type phrase s) (package ++ '.' :: (name ++ rest)) rest
      (Alike (qualifiedTree package name)) := by
  have hqualified := reads_qualifiedType hp hn hstops hk s
  have happlied : Fails (applied phrase s (typeName typeWords s))
      (package ++ '.' :: (name ++ rest)) :=
    fails_applied phrase (hqualified.orElse_left _) (meets_word hp _) hrest hnext
  have hnamed : Reads (namedType phrase s) (package ++ '.' :: (name ++ rest)) rest
      (Alike (qualifiedTree package name)) :=
    (hqualified.orElse_left _).either_right happlied
  intro o
  rw [type_of_word phrase s hp]
  exact hnamed.orElse_left _ o

/-- A name `w` by itself, as a type, is read no further than it goes. -/
lemma halts_type_name (phrase : Phrases) {s : Spacing} {w : Text} (hw : IsWord w)
    (hstops : Stops rest) (hk : (typeWords.any fun k => w = k.toList) = false)
    (hrest : Meets s rest u) (hdot : Fails (mark s ".") rest) (hnext : Fails (mark .free "[") u) :
    Halts (type phrase s) (w ++ rest) rest := by
  have hname (kind : Kind) := reads_name hw hstops kind hk
  have hqualified : Fails (qualifiedType typeWords s) (w ++ rest) :=
    ((((hname _).part (meets_word hw _) _).append_fails hdot).append _).construct _
  have happlied : Fails (applied phrase s (typeName typeWords s)) (w ++ rest) :=
    fails_applied phrase ((hname .typeIdentifier).orElse_right hqualified) (meets_word hw _) hrest
      hnext
  intro o
  obtain ⟨n, o', heq, ho', -⟩ := hname .typeIdentifier o
  refine ⟨n, -1, o', ?_, ho'⟩
  have hplain : plainType s ⟨o, w ++ rest⟩ = [⟨n, -1, ⟨o', rest⟩⟩] := by
    change orElse (qualifiedType typeWords s) (weigh (-1) (Parser.name .typeIdentifier typeWords)) _
      = _
    simp [orElse, weigh, hqualified o, heq]
  have hnamed : namedType phrase s ⟨o, w ++ rest⟩ = [⟨n, -1, ⟨o', rest⟩⟩] := by
    simp [namedType, either, happlied o, hplain]
  rw [type_of_word phrase s hw]
  change orElse (namedType phrase s) _ _ = _
  simp only [orElse, hnamed]

/-- A pointer to the type `m` is read as `pointerTree m`. -/
lemma reads_type_pointer {phrase : Phrases} {s : Spacing} {m : Node}
    (h : Reads (phrase (.type s)) t rest (Alike m)) (hmeets : Meets .free t t) :
    Reads (type phrase s) ('*' :: t) rest (Alike (pointerTree m)) :=
  ((reads_mark_cons (by decide) rfl (by decide) t).append (h.part hmeets none)).construct
    .pointerType

/-! ## Parameters -/

/-- None of the marks that can stand behind the name of a type follows in `t`. -/
def Unmarked (t : Text) : Prop :=
  ∀ m ∈ [".", "[", ",", "...", ")"], Fails (mark .free m) t

/-- Where a word `w` follows, no mark does. -/
lemma unmarked_of_word {w : Text} (hw : IsWord w) (h : Meets .free t (w ++ u)) : Unmarked t := by
  intro m hm
  simp only [List.mem_cons, List.not_mem_nil, or_false] at hm
  rcases hm with rfl | rfl | rfl | rfl | rfl
  all_goals exact fails_mark_of_word (by decide) hw h

/-- Where a star follows, no mark that can stand behind the name of a type does. -/
lemma unmarked_of_star (h : Meets .free t ('*' :: u)) : Unmarked t := by
  intro m hm
  simp only [List.mem_cons, List.not_mem_nil, or_false] at hm
  rcases hm with rfl | rfl | rfl | rfl | rfl
  all_goals exact fails_mark (by decide) h

/-- A parameter with the name `w` can also be read as a type, up to the end of the name. -/
lemma forks_parameter {phrase : Phrases} {w : Text} {m : Node} (hw : IsWord w)
    (hk : (typeWords.any fun k => w = k.toList) = false)
    (htype : Reads (phrase (.type .free)) t rest (Alike m))
    (hbare : Halts (phrase (.type .free)) (w ++ ' ' :: t) (' ' :: t)) (ht : Meets .free t t)
    (hmarks : Unmarked (' ' :: t)) (hlt : rest.length < t.length) :
    Forks (parameter phrase) (w ++ ' ' :: t) rest (' ' :: t) (Alike (parameterTree w m)) := by
  have hname := (reads_name hw (stops_cons (c := ' ') (by decide) t) .identifier hk).part
    (s := .free) (meets_word hw _) (some .name)
  have hcomma : Fails (mark .free ",") (' ' :: t) := hmarks "," (by simp)
  have hdots : Fails (mark .free "...") (' ' :: t) := hmarks "..." (by simp)
  have hnamed : Reads (namedParameter phrase) (w ++ ' ' :: t) rest (Alike (parameterTree w m)) :=
    ((hname.append (hcomma.append _).repeats.many).append
      (htype.part (ht.blank (by decide)) (some .type))).construct .parameterDeclaration
  have hvariadic : Fails (variadicParameter phrase) (w ++ ' ' :: t) :=
    ((hname.optional.append_fails hdots).append _).construct _
  have hbare' : Halts (bareParameter phrase) (w ++ ' ' :: t) (' ' :: t) :=
    (hbare.part (meets_word hw _) _).construct _
  exact hnamed.forks (hbare'.orElse_right hvariadic) (by rw [List.length_cons]; omega)

/-- Two parameters `m₁` and `m₂` with names between parentheses. -/
lemma reads_parameters {phrase : Phrases} {t₁ t₂ short₁ short₂ : Text} {m₁ m₂ : Node}
    (h₁ : Forks (parameter phrase) t₁ (',' :: ' ' :: t₂) short₁ (Alike m₁))
    (h₂ : Forks (parameter phrase) t₂ (')' :: rest) short₂ (Alike m₂))
    (ht₁ : Meets .free t₁ t₁) (ht₂ : Meets .free t₂ t₂) (hlength : t₂ ≠ [])
    (hmarks₁ : Unmarked short₁) (hmarks₂ : Unmarked short₂) :
    Reads (parameters phrase) ('(' :: t₁) rest
      (Alike (.branch .parameterList ⟨0, 0⟩ [m₁.withRole none, m₂.withRole none])) := by
  have hopen : Reads (mark .free "(") ('(' :: t₁) t₁ (AlikeParts []) :=
    reads_mark_cons (by decide) rfl (by decide) t₁
  have hcomma : Reads (mark .free ",") (',' :: ' ' :: t₂) (' ' :: t₂) (AlikeParts []) :=
    reads_mark_cons (by decide) rfl (by decide) _
  have hnocomma : Fails (mark .free ",") (')' :: rest) :=
    fails_mark (by decide) (meets_cons (by decide) rest)
  have hclose : Reads (mark .free ")") (')' :: rest) rest (AlikeParts []) :=
    reads_mark_cons (by decide) rfl (by decide) rest
  have hsecond := hcomma.append_forks (h₂.part (ht₂.blank (by decide)) none)
  have hend := hnocomma.optional.append hclose
  -- a reading that stops early is neither repeated nor closed
  have hcomma₁ := hmarks₁ "," (by simp)
  have hcomma₂ := hmarks₂ "," (by simp)
  have hclose₁ := hmarks₁ ")" (by simp)
  have hclose₂ := hmarks₂ ")" (by simp)
  have hend₂ := hcomma₂.optional.append_fails hclose₂
  have hend₁ := (hcomma₁.append (part .free none (parameter phrase))).repeats.many.append_fails
    (hcomma₁.optional.append_fails hclose₁)
  have hothers := hsecond.many_append (hnocomma.append _) (hcomma₂.append _)
    (by
      have := List.length_pos_iff.mpr hlength
      simp only [List.length_cons]
      omega) hend hend₂
  have hlist := (h₁.part ht₁ none).append hothers hend₁
  refine Reads.heaviest ?_
  rw [append_assoc, append_assoc]
  rw [← append_assoc] at hlist
  exact (hopen.append hlist.optional_append).construct .parameterList

end RouteStubs.Syntax.Types
