import RouteStubs.Proofs.Template.Tags
import RouteStubs.Proofs.Text.Numerals

/-!
# Why texts are rejected

A text that is no template is rejected with the place of the first tag that is wrong and with what
is wrong about it, or, if no tag is wrong, because its last section is not closed. Up to that place
the text is a template, unless a section is open there. The message tells the place and the mistake,
so nothing else can be meant by it, whatever stands in the tag.
-/

namespace RouteStubs.Template

/-! ## Messages -/

/-- What a message says about a mistake, in front of its place. -/
def Mistake.wording : Mistake → Text
  | .unclosed => lit "unclosed tag"
  | .nested => lit "nested section"
  | .unmatched => lit "unmatched section close"
  | .unknown name => lit "unknown field '" ++ name ++ lit "'"

lemma Mistake.message_fault (m : Mistake) (place : Nat) :
    (m.fault place).message = m.wording ++ lit " at byte " ++ Text.decimal place := by
  cases m with
  | unclosed =>
    have hlit : lit "unclosed tag at byte " = lit "unclosed tag" ++ lit " at byte " := by
      decide +kernel
    exact congrArg (· ++ Text.decimal place) hlit
  | nested =>
    have hlit : lit "nested section at byte " = lit "nested section" ++ lit " at byte " := by
      decide +kernel
    exact congrArg (· ++ Text.decimal place) hlit
  | unmatched =>
    have hlit : lit "unmatched section close at byte " =
        lit "unmatched section close" ++ lit " at byte " := by
      decide +kernel
    exact congrArg (· ++ Text.decimal place) hlit
  | unknown name =>
    have hlit : lit "unknown field '" ++ name ++ lit "' at byte " =
        lit "unknown field '" ++ name ++ lit "'" ++ lit " at byte " := by
      have hquote : lit "' at byte " = lit "'" ++ lit " at byte " := by decide +kernel
      rw [hquote, ← List.append_assoc]
    exact congrArg (· ++ Text.decimal place) hlit

/-- Different mistakes have different wordings. -/
lemma Mistake.wording_injective : Function.Injective wording := by
  -- A single letter tells an unknown field from the other mistakes, whatever its name is.
  have hunknown {m : Mistake} {name : Text} (h : m.wording = (unknown name).wording) :
      m = unknown name := by
    have hletter : m.wording[2]? = some 'k' := by
      rw [h]
      rfl
    cases m with
    | unclosed => exact absurd hletter (by decide +kernel)
    | nested => exact absurd hletter (by decide +kernel)
    | unmatched => exact absurd hletter (by decide +kernel)
    | unknown name' =>
      rw [show name' = name from List.append_cancel_left (List.append_cancel_right h)]
  intro m n h
  cases n with
  | unknown name => exact hunknown h
  | _ =>
    cases m with
    | unknown name => exact (hunknown h.symm).symm
    | _ => first | rfl | exact absurd h (by decide +kernel)

/-- What stands behind the last blank, `v`, is determined by the whole text. -/
lemma append_blank_inj {t u v w : Text} (hv : ' ' ∉ v) (hw : ' ' ∉ w)
    (h : t ++ ' ' :: v = u ++ ' ' :: w) : t = u ∧ v = w := by
  have hempty {r v w : Text} (hv : ' ' ∉ v) (hr : ' ' :: v = r ++ ' ' :: w) : r = [] := by
    cases r with
    | nil => rfl
    | cons c r =>
      refine absurd ?_ hv
      rw [(List.cons.inj hr).2]
      simp
  have htu : t = u := by
    rcases List.append_eq_append_iff.mp h with ⟨r, rfl, hr⟩ | ⟨r, rfl, hr⟩
    · rw [hempty hv hr, List.append_nil]
    · rw [hempty hw hr, List.append_nil]
  subst htu
  exact ⟨rfl, (List.cons.inj (List.append_cancel_left h)).2⟩

lemma blank_not_mem_decimal (n : Nat) : ' ' ∉ Text.decimal n := by
  intro h
  have hdigit := Text.isDigit_of_mem_decimal h
  contradiction

/-- In front of the number `n` of a place is a blank. -/
lemma append_place_eq (t : Text) (n : Nat) :
    t ++ lit " at byte " ++ Text.decimal n = (t ++ lit " at byte") ++ ' ' :: Text.decimal n := by
  have hlit : lit " at byte " = lit " at byte" ++ [' '] := by decide +kernel
  rw [hlit, ← List.append_assoc, List.append_assoc _ [' '], List.singleton_append]

/-- A message that ends with a place determines the place and what is in front of it. -/
lemma append_place_inj {t u : Text} {m n : Nat}
    (h : t ++ lit " at byte " ++ Text.decimal m = u ++ lit " at byte " ++ Text.decimal n) :
    t = u ∧ m = n := by
  rw [append_place_eq, append_place_eq] at h
  obtain ⟨htext, hplace⟩ := append_blank_inj (blank_not_mem_decimal m) (blank_not_mem_decimal n) h
  exact ⟨List.append_cancel_right htext, Text.decimal_injective hplace⟩

/-- The message of a section that is left open ends with no place `n`. -/
lemma append_place_ne (t : Text) (n : Nat) :
    t ++ lit " at byte " ++ Text.decimal n ≠ lit "unclosed handlers section" := by
  intro h
  have hlit : lit "unclosed handlers section" = lit "unclosed handlers" ++ ' ' :: lit "section" := by
    decide +kernel
  rw [append_place_eq, hlit] at h
  obtain ⟨-, hsection⟩ := append_blank_inj (blank_not_mem_decimal n) (by decide +kernel) h
  have hmem : 's' ∈ Text.decimal n := by
    rw [hsection]
    decide +kernel
  have hdigit := Text.isDigit_of_mem_decimal hmem
  contradiction

/-! ## The first mistake -/

/-- A closed tag of the given `name` begins in `t`, behind its opening braces. -/
def BeginsTag (t : Text) (name : Text) : Prop :=
  ∃ inner rest, t = inner ++ '\x7d' :: '\x7d' :: rest ∧ PairFree '\x7d' (inner ++ ['\x7d']) ∧
    Text.trim inner = name

/-- The mistake is made by a tag behind others of the names `earlier`, if the text `after` stands
behind its opening braces. -/
def Mistake.IsMade (earlier : List Text) (after : Text) : Mistake → Prop
  | .unclosed => ¬ ['\x7d', '\x7d'] <:+: after
  | .nested => SectionOpen earlier ∧ BeginsTag after openTag
  | .unmatched => ¬ SectionOpen earlier ∧ BeginsTag after closeTag
  | .unknown name => BeginsTag after name ∧ name ≠ openTag ∧ name ≠ closeTag ∧
    if SectionOpen earlier then ∀ f : HandlerField, f.tag ≠ name else ∀ f : FileField, f.tag ≠ name

/-- A tag of a `name` that does not fit is the mistake `ofTag name`. -/
lemma Mistake.isMade_ofTag {earlier : List Text} {after name : Text} (h : BeginsTag after name)
    (hname : ¬ Fits earlier name) : (ofTag name).IsMade earlier after := by
  unfold Fits at hname
  unfold ofTag
  split_ifs with hopen hclose
  · split_ifs at hname with hsection
    · exact ⟨hsection, hopen ▸ h⟩
    · exact absurd (.inl hopen) hname
  · split_ifs at hname with hsection
    · exact absurd (.inl hclose) hname
    · exact ⟨hsection, hclose ▸ h⟩
  · refine ⟨h, hopen, hclose, ?_⟩
    split_ifs at hname ⊢
    · exact fun f hf => hname (.inr ⟨f, hf⟩)
    · exact fun f hf => hname (.inr ⟨f, hf⟩)

/-- A mistake `m` is a tag that is not closed, or one that does not fit. -/
lemma Mistake.IsMade.cases {earlier : List Text} {after : Text} {m : Mistake}
    (h : m.IsMade earlier after) :
    (m = .unclosed ∧ PairFree '\x7d' after) ∨
      ∃ name, BeginsTag after name ∧ ¬ Fits earlier name ∧ m = .ofTag name := by
  have hne : openTag ≠ closeTag := by decide
  cases m with
  | unclosed => exact .inl ⟨rfl, h⟩
  | nested =>
    obtain ⟨hsection, htag⟩ := h
    refine .inr ⟨openTag, htag, ?_, rfl⟩
    rw [Fits, if_pos hsection, not_or, not_exists]
    exact ⟨hne, fun f => f.tag_ne.1⟩
  | unmatched =>
    obtain ⟨hsection, htag⟩ := h
    refine .inr ⟨closeTag, htag, ?_, rfl⟩
    rw [Fits, if_neg hsection, not_or, not_exists]
    exact ⟨hne.symm, fun f => f.tag_ne.2⟩
  | unknown name =>
    obtain ⟨htag, hopen, hclose, hfield⟩ := h
    refine .inr ⟨name, htag, ?_, by rw [ofTag, if_neg hopen, if_neg hclose]⟩
    unfold Fits
    split_ifs at hfield ⊢
    · exact not_or.mpr ⟨hclose, not_exists.mpr hfield⟩
    · exact not_or.mpr ⟨hopen, not_exists.mpr hfield⟩

/-- How the text `t` is read: up to its end if all tags are closed and fit, and otherwise up to the
first mistake. -/
inductive Verdict (t : Text) : Option Fault → Prop
  | finished {tags : List Tag} {last : Text} : t = written tags ++ last → AllFit (names tags) →
    PairFree '\x7b' last →
      Verdict t (if SectionOpen (names tags) then some .unclosedSection else none)
  | stopped {tags : List Tag} {lead after : Text} {m : Mistake} :
    t = written tags ++ lead ++ '\x7b' :: '\x7b' :: after → AllFit (names tags) →
    PairFree '\x7b' (lead ++ ['\x7b']) → m.IsMade (names tags) after →
      Verdict t (some (m.fault (Text.byteLength (written tags ++ lead))))

/-- Every text `t` is read in one of the ways of `Verdict`. -/
lemma exists_verdict (t : Text) : ∃ fault?, Verdict t fault? := by
  obtain ⟨tags, last, rfl, hlast⟩ := exists_written_append t
  rcases allFit_or_exists_not_fits tags with hall | ⟨before, g, others, rfl, hall, hg⟩
  · cases hlast with
    | plain hpair => exact ⟨_, .finished rfl hall hpair⟩
    | unclosed hlead hafter =>
      exact ⟨_, .stopped (List.append_assoc _ _ _).symm hall hlead (m := .unclosed) hafter⟩
  · let after := g.inner ++ '\x7d' :: '\x7d' :: (written others ++ last)
    have htext : written (before ++ g :: others) ++ last =
        written before ++ g.lead ++ '\x7b' :: '\x7b' :: after := by
      simp [written, Tag.text, braced, after]
    have htag : BeginsTag after g.name := ⟨g.inner, _, rfl, g.inner_pairFree, rfl⟩
    exact ⟨_, .stopped htext hall g.lead_pairFree (Mistake.isMade_ofTag htag hg)⟩

/-- Each way of reading leads to its `fault`. -/
lemma Verdict.fault_eq {t : Text} {fault : Option Fault} (h : Verdict t fault) :
    fault? (parse t) = fault := by
  rw [fault?_parse]
  cases h with
  | finished htext hall hpair =>
    rw [htext, faultFrom?_written_append hall, faultFrom?_of_pairFree _ _ hpair]
  | @stopped tags lead after m htext hall hlead hmade =>
    rw [htext, List.append_assoc, faultFrom?_written_append hall, Text.byteLength_append]
    rcases hmade.cases with ⟨rfl, hafter⟩ | ⟨name, ⟨inner, rest, rfl, hinner, rfl⟩, hfits, rfl⟩
    · exact faultFrom?_of_unclosed _ _ hlead hafter
    · let g : Tag := ⟨lead, inner, hlead, hinner⟩
      have hg : lead ++ '\x7b' :: '\x7b' :: (inner ++ '\x7d' :: '\x7d' :: rest) = g.text ++ rest := by
        simp [g, Tag.text, braced]
      rw [hg]
      exact faultFrom?_of_not_fits _ _ hfits rest

lemma verdict_iff {t : Text} {fault : Option Fault} : Verdict t fault ↔ fault? (parse t) = fault := by
  refine ⟨Verdict.fault_eq, ?_⟩
  rintro rfl
  obtain ⟨fault, h⟩ := exists_verdict t
  rwa [h.fault_eq]

/-- Plain text `last` behind tags that all fit is a template, unless a section is open. -/
lemma parse_written_append {tags : List Tag} {last : Text} (hall : AllFit (names tags))
    (hlast : PairFree '\x7b' last) :
    if SectionOpen (names tags) then parse (written tags ++ last) = .error .unclosedSection
    else ∃ T, parse (written tags ++ last) = .ok T := by
  have hfault := (Verdict.finished rfl hall hlast).fault_eq
  cases hparse : parse (written tags ++ last) with
  | ok T =>
    rw [hparse] at hfault
    split_ifs at hfault ⊢ with hsection
    · contradiction
    · exact ⟨T, rfl⟩
  | error fault =>
    rw [hparse] at hfault
    split_ifs at hfault ⊢ with hsection
    · rw [Option.some.inj hfault]
    · contradiction

/-- The `message` that a text is rejected with is that of the fault in its `Verdict`. -/
lemma mapError_parse_eq_error_iff {t message : Text} :
    (parse t).mapError Fault.message = .error message ↔
      ∃ fault, Verdict t (some fault) ∧ fault.message = message := by
  simp only [verdict_iff]
  cases parse t with
  | ok T => simp [Except.mapError, fault?]
  | error fault => simp [Except.mapError, fault?]

/-- A text is rejected with a place if a tag begins there with a mistake and all tags in front of it
are closed and fit. The place is a boundary of the text, and what is in front of it is a template,
unless a section is open there, which is then all that is wrong with it. The message tells the
mistake. A text is rejected for a section that is left open if all of its tags are closed and fit,
and the last one of them that belongs to a section opens it. -/
theorem rejection_points_at_first_mistake :
    Function.Injective Mistake.wording ∧
    (∀ (t wording : Text) (place : Nat),
      (parse t).mapError Fault.message =
          .error (wording ++ lit " at byte " ++ Text.decimal place) ↔
        ∃ (tags : List Tag) (lead after : Text) (m : Mistake),
          t = written tags ++ lead ++ '\x7b' :: '\x7b' :: after ∧
          PairFree '\x7b' (lead ++ ['\x7b']) ∧ AllFit (names tags) ∧
          Text.byteLength (written tags ++ lead) = place ∧ Text.IsBoundary t place ∧
          (if SectionOpen (names tags) then
            parse (written tags ++ lead) = .error .unclosedSection
          else ∃ T, parse (written tags ++ lead) = .ok T) ∧
          wording = m.wording ∧ m.IsMade (names tags) after) ∧
    ∀ t, (parse t).mapError Fault.message = .error (lit "unclosed handlers section") ↔
      ∃ (tags : List Tag) (last : Text), t = written tags ++ last ∧ PairFree '\x7b' last ∧
        AllFit (names tags) ∧ SectionOpen (names tags) := by
  refine ⟨Mistake.wording_injective, ?_, ?_⟩
  · intro t wording place
    rw [mapError_parse_eq_error_iff]
    constructor
    · rintro ⟨fault, hverdict, hmessage⟩
      generalize hresult : some fault = result at hverdict
      cases hverdict with
      | finished htext hall hlast =>
        split_ifs at hresult
        rw [Option.some.inj hresult] at hmessage
        exact absurd hmessage.symm (append_place_ne wording place)
      | @stopped tags lead after m htext hall hlead hmade =>
        rw [Option.some.inj hresult, m.message_fault] at hmessage
        obtain ⟨rfl, rfl⟩ := append_place_inj hmessage
        exact ⟨tags, lead, after, m, htext, hlead, hall, rfl,
          Text.isBoundary_iff.mpr ⟨_, _, htext, rfl⟩,
          parse_written_append hall (pairFree_append_singleton.mp hlead).1, rfl, hmade⟩
    · rintro ⟨tags, lead, after, m, htext, hlead, hall, rfl, -, -, rfl, hmade⟩
      exact ⟨_, .stopped htext hall hlead hmade, m.message_fault _⟩
  · intro t
    rw [mapError_parse_eq_error_iff]
    constructor
    · rintro ⟨fault, hverdict, hmessage⟩
      generalize hresult : some fault = result at hverdict
      cases hverdict with
      | @finished tags last htext hall hlast =>
        split_ifs at hresult with hsection
        exact ⟨tags, last, htext, hlast, hall, hsection⟩
      | @stopped tags lead after m htext hall hlead hmade =>
        rw [Option.some.inj hresult, m.message_fault] at hmessage
        exact absurd hmessage (append_place_ne _ _)
    · rintro ⟨tags, last, htext, hlast, hall, hsection⟩
      have hverdict := Verdict.finished htext hall hlast
      rw [if_pos hsection] at hverdict
      exact ⟨_, hverdict, rfl⟩

/-- Text of several bytes, a section, and a field of files inside of it. -/
def misplacedText : Text :=
  lit ("é\x7b\x7b#handlers\x7d\x7d\n\x7b\x7bname\x7d\x7d \x7b\x7b package\t\x7d\x7d" ++
    "\x7b\x7b/handlers\x7d\x7d")

/-- The first mistake is the field of files, 25 bytes from the beginning. -/
theorem rejection_of_misplacedText :
    (parse misplacedText).mapError Fault.message =
        .error (lit "unknown field 'package'" ++ lit " at byte " ++ Text.decimal 25) ∧
      ∃ before after, misplacedText = before ++ '\x7b' :: '\x7b' :: after ∧
        Text.byteLength before = 25 ∧ Text.IsBoundary misplacedText 25 ∧
        BeginsTag after (lit "package") := by
  have hmessage : (parse misplacedText).mapError Fault.message =
      .error (lit "unknown field 'package'" ++ lit " at byte " ++ Text.decimal 25) := by
    decide +kernel
  obtain ⟨hwording, hplace, -⟩ := rejection_points_at_first_mistake
  obtain ⟨tags, lead, after, m, htext, -, -, hlength, hboundary, -, hm, hmade⟩ :=
    (hplace _ _ _).mp hmessage
  obtain rfl : Mistake.unknown (lit "package") = m := by
    apply hwording
    rw [← hm]
    rfl
  exact ⟨hmessage, _, _, htext, hlength, hboundary, hmade.1⟩

end RouteStubs.Template
