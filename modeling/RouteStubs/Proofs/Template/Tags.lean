import Mathlib.Data.List.Induction
import RouteStubs.Proofs.Template.RoundTrip
import RouteStubs.Proofs.Text.Offsets

/-!
# Tags that fit, one behind the other

Every text is a sequence of closed tags, each with the plain text in front of it, and an end without
a closed tag. Whether a tag may stand where it does depends only on the names of the tags in front
of it: on whether the last one that belongs to a section opens it. As long as all tags fit, reading
comes to the place behind them, and nothing else of what has been read matters for the faults that
are found from there on, neither the texts nor the line breaks behind the tags of sections.
-/

namespace RouteStubs.Template

/-! ## Closed tags -/

/-- A closed tag, with the plain text in front of it. -/
structure Tag where
  lead : Text
  inner : Text
  lead_pairFree : PairFree '\x7b' (lead ++ ['\x7b'])
  inner_pairFree : PairFree '\x7d' (inner ++ ['\x7d'])

namespace Tag

/-- What the tag `g` says, without the white space around it. -/
def name (g : Tag) : Text := Text.trim g.inner

/-- How the tag `g` is written, from the plain text on. -/
def text (g : Tag) : Text := g.lead ++ braced g.inner

end Tag

/-- The `tags`, written down one after the other. -/
def written (tags : List Tag) : Text := tags.flatMap Tag.text

/-- The names of the `tags`. -/
def names (tags : List Tag) : List Text := tags.map Tag.name

/-- An end without a closed tag: plain text, perhaps with opening braces behind it that are not
closed. -/
inductive IsEnd : Text → Prop
  | plain {last : Text} : PairFree '\x7b' last → IsEnd last
  | unclosed {lead after : Text} : PairFree '\x7b' (lead ++ ['\x7b']) → PairFree '\x7d' after →
    IsEnd (lead ++ '\x7b' :: '\x7b' :: after)

/-- Every text `t` is a sequence of closed tags and an end. -/
lemma exists_written_append (t : Text) : ∃ tags last, t = written tags ++ last ∧ IsEnd last := by
  induction hlength : t.length using Nat.strong_induction_on generalizing t with
  | _ n ih =>
    cases hopen : splitAtPair? '\x7b' t with
    | none => exact ⟨[], t, rfl, .plain (splitAtPair?_eq_none_iff.mp hopen)⟩
    | some pair =>
      obtain ⟨lead, opened⟩ := pair
      obtain ⟨rfl, hlead⟩ := splitAtPair?_eq_some_iff.mp hopen
      cases hclose : splitAtPair? '\x7d' opened with
      | none => exact ⟨[], _, rfl, .unclosed hlead (splitAtPair?_eq_none_iff.mp hclose)⟩
      | some pair =>
        obtain ⟨inner, closed⟩ := pair
        have hshorter := Nat.lt_trans (length_lt_of_splitAtPair? hclose)
          (length_lt_of_splitAtPair? hopen)
        obtain ⟨rfl, hinner⟩ := splitAtPair?_eq_some_iff.mp hclose
        obtain ⟨tags, last, rfl, hlast⟩ := ih _ (by omega) closed rfl
        refine ⟨⟨lead, inner, hlead, hinner⟩ :: tags, last, ?_, hlast⟩
        simp [written, Tag.text, braced]

/-! ## Which tags fit -/

/-- A section is open behind tags of these `names`: the last one that belongs to a section opens it.
-/
def SectionOpen (names : List Text) : Prop :=
  (names.filter fun name => name = openTag ∨ name = closeTag).getLast? = some openTag

instance (names : List Text) : Decidable (SectionOpen names) :=
  inferInstanceAs (Decidable (_ = _))

lemma not_sectionOpen_nil : ¬ SectionOpen [] := by
  simp [SectionOpen]

/-- A tag of a section settles whether one is open behind it, and no other `name` changes it. -/
lemma sectionOpen_concat {names : List Text} {name : Text} :
    SectionOpen (names ++ [name]) ↔ name = openTag ∨ (SectionOpen names ∧ name ≠ closeTag) := by
  have hne : closeTag ≠ openTag := by decide
  rw [SectionOpen, List.filter_append]
  by_cases hopen : name = openTag
  · simp [hopen]
  · by_cases hclose : name = closeTag
    · simp [hclose, hne]
    · simp [hopen, hclose, SectionOpen]

/-- A tag of the given `name` may stand behind tags of the names `earlier`. -/
def Fits (earlier : List Text) (name : Text) : Prop :=
  if SectionOpen earlier then name = closeTag ∨ ∃ f : HandlerField, f.tag = name
  else name = openTag ∨ ∃ f : FileField, f.tag = name

/-- Every tag among `names` may stand behind those in front of it. -/
def AllFit (names : List Text) : Prop :=
  ∀ earlier name, earlier ++ [name] <+: names → Fits earlier name

lemma allFit_nil : AllFit [] := by
  intro earlier name h
  simp at h

lemma allFit_concat {names : List Text} {name : Text} :
    AllFit (names ++ [name]) ↔ AllFit names ∧ Fits names name := by
  constructor
  · intro h
    exact ⟨fun earlier name' hearlier => h earlier name' (hearlier.trans (List.prefix_append _ _)),
      h names name (List.prefix_refl _)⟩
  · rintro ⟨hall, hname⟩ earlier name' hearlier
    rcases List.prefix_concat_iff.mp hearlier with heq | hearlier
    · obtain ⟨rfl, hlast⟩ := List.append_inj' heq rfl
      obtain rfl : name' = name := by simpa using hlast
      exact hname
    · exact hall earlier name' hearlier

/-- If not all `tags` fit, there is a first one, `g`, that does not. -/
lemma allFit_or_exists_not_fits (tags : List Tag) :
    AllFit (names tags) ∨ ∃ before g after, tags = before ++ g :: after ∧ AllFit (names before) ∧
      ¬ Fits (names before) g.name := by
  induction tags using List.reverseRecOn with
  | nil => exact .inl allFit_nil
  | append_singleton tags g ih =>
    rcases ih with hall | ⟨before, b, after, rfl, hall, hb⟩
    · by_cases hg : Fits (names tags) g.name
      · left
        rw [names, List.map_append]
        exact allFit_concat.mpr ⟨hall, hg⟩
      · exact .inr ⟨tags, g, [], rfl, hall, hg⟩
    · exact .inr ⟨before, b, after ++ [g], by simp, hall, hb⟩

/-! ## What does not matter for faults -/

/-- The fault with which reading ends, if it does so with one. -/
def fault? : Except Fault Template → Option Fault
  | .error fault => some fault
  | .ok _ => none

@[simp] lemma fault?_map (r : Except Fault Template) (f : Template → Template) :
    fault? (r.map f) = fault? r := by
  cases r <;> rfl

/-- What a section has gathered does not matter for the fault of `assemble`. -/
lemma fault?_assemble_some (body body' : List HandlerSegment) (chunks : List Chunk) :
    fault? (assemble (some body) chunks) = fault? (assemble (some body') chunks) := by
  induction chunks generalizing body body' with
  | nil => rfl
  | cons c chunks ih =>
    cases c with
    | text t =>
      rw [assemble, assemble]
      exact ih _ _
    | unclosed n => rfl
    | tag n name =>
      rw [assemble, assemble]
      split
      · rfl
      · split
        · rw [fault?_map, fault?_map]
        · cases HandlerField.ofName? name with
          | none => rfl
          | some f => exact ih _ _

/-- A text `t` does not matter for the fault of `assemble`. -/
lemma fault?_assemble_plain_append (section? : Option (List HandlerSegment)) (t : Text)
    (chunks : List Chunk) :
    fault? (assemble section? (plain t ++ chunks)) = fault? (assemble section? chunks) := by
  unfold plain
  split
  · rfl
  · cases section? with
    | none =>
      rw [List.singleton_append, assemble]
      exact fault?_map _ _
    | some body =>
      rw [List.singleton_append, assemble]
      exact fault?_assemble_some _ _ _

/-! ## Tags one by one -/

/-- What can be wrong about a tag. -/
inductive Mistake where
  /-- It is not closed. -/
  | unclosed
  /-- It opens a section inside of another one. -/
  | nested
  /-- It closes a section, but none is open. -/
  | unmatched
  /-- It is no field that may stand there. -/
  | unknown (name : Text)
  deriving DecidableEq, Repr

/-- The fault that stands for a mistake at the given `place`. -/
def Mistake.fault (place : Nat) : Mistake → Fault
  | .unclosed => .unclosedTag place
  | .nested => .nestedSection place
  | .unmatched => .unmatchedClose place
  | .unknown name => .unknownField name place

/-- What is wrong about a closed tag of a `name` that does not fit. -/
def Mistake.ofTag (name : Text) : Mistake :=
  if name = openTag then .nested else if name = closeTag then .unmatched else .unknown name

/-- What a section behind tags of the given `names` has gathered if all it holds has been left out.
-/
def begun (names : List Text) : Option (List HandlerSegment) :=
  if SectionOpen names then some [] else none

/-- A tag of a `name` that fits leads to the chunks behind it. -/
lemma fault?_assemble_of_fits {earlier : List Text} {name : Text} (h : Fits earlier name)
    (place : Nat) (chunks : List Chunk) :
    fault? (assemble (begun earlier) (.tag place name :: chunks)) =
      fault? (assemble (begun (earlier ++ [name])) chunks) := by
  have hne : closeTag ≠ openTag := by decide
  unfold Fits at h
  unfold begun
  split_ifs at h with hsection
  · rw [if_pos hsection, assemble]
    rcases h with rfl | ⟨f, rfl⟩
    · rw [if_neg hne, if_pos rfl, fault?_map, if_neg (by simp [sectionOpen_concat, hne])]
    · rw [if_neg f.tag_ne.1, if_neg f.tag_ne.2, f.ofName?_tag,
        if_pos (sectionOpen_concat.mpr (.inr ⟨hsection, f.tag_ne.2⟩))]
      exact fault?_assemble_some _ _ _
  · rw [if_neg hsection, assemble]
    rcases h with rfl | ⟨f, rfl⟩
    · rw [if_pos rfl, if_pos (sectionOpen_concat.mpr (.inl rfl))]
    · rw [if_neg f.tag_ne.1, if_neg f.tag_ne.2, f.ofName?_tag,
        if_neg (by simp [sectionOpen_concat, hsection, f.tag_ne.1])]
      exact fault?_map _ _

/-- A tag of a `name` that does not fit is a fault. -/
lemma fault?_assemble_of_not_fits {earlier : List Text} {name : Text} (h : ¬ Fits earlier name)
    (place : Nat) (chunks : List Chunk) :
    fault? (assemble (begun earlier) (.tag place name :: chunks)) =
      some ((Mistake.ofTag name).fault place) := by
  unfold Fits at h
  unfold begun Mistake.ofTag
  split_ifs at h with hsection
  · obtain ⟨hclose, hfield⟩ := not_or.mp h
    have hnone : HandlerField.ofName? name = none :=
      List.find?_eq_none.mpr fun f _ hf => hfield ⟨f, by simpa using hf⟩
    rw [if_pos hsection, assemble, if_neg hclose, if_neg hclose, hnone]
    split_ifs <;> rfl
  · obtain ⟨hopen, hfield⟩ := not_or.mp h
    have hnone : FileField.ofName? name = none :=
      List.find?_eq_none.mpr fun f _ hf => hfield ⟨f, by simpa using hf⟩
    rw [if_neg hsection, assemble, if_neg hopen, if_neg hopen, hnone]
    split_ifs <;> rfl

/-! ## Faults from a place on -/

/-- The fault that is found in `t` from `place` on, behind tags of the given `names`. -/
def faultFrom? (names : List Text) (place : Nat) (t : Text) : Option Fault :=
  fault? (assemble (begun names) (chunksFrom place t))

lemma fault?_parse (t : Text) : fault? (parse t) = faultFrom? [] 0 t := by
  rw [faultFrom?, begun, if_neg not_sectionOpen_nil]
  rfl

/-- By `afterTag` a tag takes up a line break or nothing. -/
lemma afterTag_eq_or (name rest : Text) :
    afterTag name rest = rest ∨ rest = '\n' :: afterTag name rest := by
  unfold afterTag
  split
  · split
    · exact .inr rfl
    · exact .inl rfl
  · exact .inl rfl

section

variable (earlier : List Text) (place : Nat)

/-- Plain text `t` at the end is faulty only if a section is still open. -/
lemma faultFrom?_of_pairFree {t : Text} (h : PairFree '\x7b' t) :
    faultFrom? earlier place t = if SectionOpen earlier then some .unclosedSection else none := by
  rw [faultFrom?, chunksFrom_of_pairFree place h, ← List.append_nil (plain t),
    fault?_assemble_plain_append, begun]
  split <;> rfl

/-- Opening braces behind `lead` that are not closed are a fault. -/
lemma faultFrom?_of_unclosed {lead after : Text} (hlead : PairFree '\x7b' (lead ++ ['\x7b']))
    (hafter : PairFree '\x7d' after) :
    faultFrom? earlier place (lead ++ '\x7b' :: '\x7b' :: after) =
      some (.unclosedTag (place + Text.byteLength lead)) := by
  have hopen : splitAtPair? '\x7b' (lead ++ '\x7b' :: '\x7b' :: after) = some (lead, after) :=
    splitAtPair?_eq_some_iff.mpr ⟨rfl, hlead⟩
  rw [faultFrom?, chunksFrom_of_unclosed place hopen (splitAtPair?_eq_none_iff.mpr hafter),
    fault?_assemble_plain_append]
  rfl

/-- A line break is passed over. -/
lemma faultFrom?_newline_cons (t : Text) :
    faultFrom? earlier place ('\n' :: t) = faultFrom? earlier (place + 1) t := by
  have hfree {u : Text} : PairFree '\x7b' ('\n' :: u) ↔ PairFree '\x7b' u := by
    rw [pairFree_cons]
    exact and_iff_right (fun h => absurd h.1 (by decide))
  have hsize (u : Text) :
      place + Text.byteLength ('\n' :: u) = place + 1 + Text.byteLength u := by
    rw [Text.byteLength_cons, ← Nat.add_assoc]
    rfl
  cases hopen : splitAtPair? '\x7b' t with
  | none =>
    have hpair := splitAtPair?_eq_none_iff.mp hopen
    rw [faultFrom?_of_pairFree _ _ hpair, faultFrom?_of_pairFree _ _ (hfree.mpr hpair)]
  | some pair =>
    obtain ⟨lead, opened⟩ := pair
    obtain ⟨ht, hlead⟩ := splitAtPair?_eq_some_iff.mp hopen
    have hopen' : splitAtPair? '\x7b' ('\n' :: t) = some ('\n' :: lead, opened) :=
      splitAtPair?_eq_some_iff.mpr ⟨by rw [ht, List.cons_append], hfree.mpr hlead⟩
    rw [faultFrom?, faultFrom?]
    cases hclose : splitAtPair? '\x7d' opened with
    | none =>
      rw [chunksFrom_of_unclosed _ hopen hclose, chunksFrom_of_unclosed _ hopen' hclose,
        fault?_assemble_plain_append, fault?_assemble_plain_append, hsize]
    | some pair =>
      rw [chunksFrom_of_closed _ hopen hclose, chunksFrom_of_closed _ hopen' hclose,
        fault?_assemble_plain_append, fault?_assemble_plain_append, hsize]

/-- The line break that a tag may take up does not matter for faults. -/
lemma faultFrom?_afterTag (inner rest : Text) :
    faultFrom? earlier (placeAfter place inner rest) (afterTag (Text.trim inner) rest) =
      faultFrom? earlier (place + Text.byteLength (braced inner)) rest := by
  have hsize : Text.byteLength (braced inner) = 2 + Text.byteLength inner + 2 := by
    have hopen : '\x7b'.utf8Size = 1 := rfl
    have hclose : '\x7d'.utf8Size = 1 := rfl
    simp only [braced, Text.byteLength_append, Text.byteLength_cons, Text.byteLength_nil]
    omega
  rcases afterTag_eq_or (Text.trim inner) rest with hrest | hrest
  · rw [placeAfter, hrest, Nat.sub_self, hsize, Nat.add_zero]
    simp only [Nat.add_assoc]
  · have hplace : placeAfter place inner rest = place + Text.byteLength (braced inner) + 1 := by
      have hlength := congrArg List.length hrest
      rw [List.length_cons] at hlength
      rw [placeAfter, hsize]
      omega
    rw [hplace, ← faultFrom?_newline_cons, ← hrest]

/-- The fault from a tag `g` on is that of its own chunk, or of those behind it. -/
lemma faultFrom?_tag_append (g : Tag) (rest : Text) :
    faultFrom? earlier place (g.text ++ rest) =
      fault? (assemble (begun earlier) (.tag (place + Text.byteLength g.lead) g.name ::
        chunksFrom (placeAfter (place + Text.byteLength g.lead) g.inner rest)
          (afterTag g.name rest))) := by
  have hopen : splitAtPair? '\x7b' (g.text ++ rest) =
      some (g.lead, g.inner ++ '\x7d' :: '\x7d' :: rest) :=
    splitAtPair?_eq_some_iff.mpr ⟨by simp [Tag.text, braced], g.lead_pairFree⟩
  have hclose : splitAtPair? '\x7d' (g.inner ++ '\x7d' :: '\x7d' :: rest) = some (g.inner, rest) :=
    splitAtPair?_eq_some_iff.mpr ⟨rfl, g.inner_pairFree⟩
  rw [faultFrom?, chunksFrom_of_closed place hopen hclose, fault?_assemble_plain_append]
  rfl

/-- A tag `g` that fits is passed over by `faultFrom?`. -/
lemma faultFrom?_of_fits {g : Tag} (h : Fits earlier g.name) (rest : Text) :
    faultFrom? earlier place (g.text ++ rest) =
      faultFrom? (earlier ++ [g.name]) (place + Text.byteLength g.text) rest := by
  have hplace : place + Text.byteLength g.text =
      place + Text.byteLength g.lead + Text.byteLength (braced g.inner) := by
    rw [Tag.text, Text.byteLength_append, Nat.add_assoc]
  rw [faultFrom?_tag_append, fault?_assemble_of_fits h, hplace, ← faultFrom?_afterTag]
  rfl

/-- A tag `g` that does not fit is a fault, at the place where it begins. -/
lemma faultFrom?_of_not_fits {g : Tag} (h : ¬ Fits earlier g.name) (rest : Text) :
    faultFrom? earlier place (g.text ++ rest) =
      some ((Mistake.ofTag g.name).fault (place + Text.byteLength g.lead)) := by
  rw [faultFrom?_tag_append, fault?_assemble_of_not_fits h]

end

/-- The `tags` that all fit are passed over. The induction is on the last tag, since each of them
fits behind those in front of it. -/
lemma faultFrom?_written_append {tags : List Tag} (h : AllFit (names tags)) (rest : Text) :
    faultFrom? [] 0 (written tags ++ rest) =
      faultFrom? (names tags) (Text.byteLength (written tags)) rest := by
  induction tags using List.reverseRecOn generalizing rest with
  | nil => rfl
  | append_singleton tags g ih =>
    have hnames : names (tags ++ [g]) = names tags ++ [g.name] := List.map_append
    have hwritten : written (tags ++ [g]) = written tags ++ g.text := by simp [written]
    rw [hnames] at h ⊢
    obtain ⟨hall, hg⟩ := allFit_concat.mp h
    rw [hwritten, List.append_assoc, ih hall, faultFrom?_of_fits _ _ hg, Text.byteLength_append]

end RouteStubs.Template
