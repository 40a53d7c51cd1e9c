import Mathlib.Data.Set.List
import RouteStubs.Proofs.Syntax.Symbols
import RouteStubs.Proofs.Text.Numerals

/-!
# Plain characters of interpreted literals

Every text between two quotes is a sequence of parts: whatever `escape?` finds is the spelling of a
symbol, and what is left are plain characters and backslashes by themselves.

The bytes of several escapes are decoded together, and faulty ones are replaced. A plain character
is not affected by it: it divides the literal into two that are resolved each for itself, however
faulty the bytes in front of it and behind it are. So the value has all plain characters, in the
order in which they are written.
-/

namespace RouteStubs.Syntax.StringLiteral

/-! ## Every literal has parts -/

/-- A digit `c` that is read is a `Digit`. -/
lemma exists_digit {base : Nat} {c : Char} {v : Nat} (h : Text.digitIn? base c = some v) :
    ∃ d : Digit base, d.char = c := by
  obtain ⟨hlt, hc⟩ := Text.char_of_digitIn? h
  rcases hc with rfl | rfl
  · exact ⟨⟨⟨v, hlt⟩, false⟩, rfl⟩
  · exact ⟨⟨⟨v, hlt⟩, true⟩, rfl⟩

/-- A number that `digitsAt?` reads is a `Numeral` at the front of the text. -/
lemma exists_numeral {base count : Nat} (hbase : base ≤ 16) {t : Text} {v : Nat}
    (h : digitsAt? base count t = some v) :
    ∃ (n : Numeral base count) (rest : Text), t = n.text ++ rest ∧ n.value = v := by
  unfold digitsAt? at h
  split_ifs at h with hlength
  have hdigits : ∀ c ∈ t.take count, c ∈ Set.range (@Digit.char base) := by
    intro c hc
    obtain ⟨v, hv⟩ := Text.exists_digitIn?_of_numberIn? h c hc
    exact exists_digit hv
  obtain ⟨digits, htext⟩ : t.take count ∈ Set.range (List.map (@Digit.char base)) := by
    rw [Set.range_list_map]
    exact hdigits
  let n : Numeral base count := ⟨digits, by rw [← hlength, ← htext, List.length_map]⟩
  have hn : n.text = t.take count := htext
  refine ⟨n, t.drop count, by rw [hn, List.take_append_drop], ?_⟩
  rw [← hn, numberIn?_text hbase] at h
  exact Option.some.inj h

lemma valid_of_scalar? {n : Nat} {c : Char} (h : scalar? n = some c) : n.isValidChar := by
  unfold scalar? at h
  split_ifs at h with hvalid
  exact hvalid

/-- A letter or mark that stands for a character is in `marks`. -/
lemma mem_marks {letter c : Char} (h : simpleEscape? letter = some c) : (letter, c) ∈ marks := by
  unfold simpleEscape? at h
  split at h
  all_goals first
    | contradiction
    | cases h; decide

/-- The text behind a backslash begins with an escape, of one of five forms. -/
inductive BeginsWith : Escape → Text → Prop
  | mark {c d : Char} {t : Text} : simpleEscape? c = some d → BeginsWith ⟨.char d, 1⟩ (c :: t)
  | hexByte {t : Text} {v : Nat} : digitsAt? 16 2 t = some v →
    BeginsWith ⟨.byte (UInt8.ofNat v), 3⟩ ('x' :: t)
  | octalByte {t : Text} {v : Nat} : digitsAt? 8 3 t = some v → v ≤ 0xff →
    BeginsWith ⟨.byte (UInt8.ofNat v), 3⟩ t
  | short {t : Text} {v : Nat} {d : Char} : digitsAt? 16 4 t = some v → scalar? v = some d →
    BeginsWith ⟨.char d, 5⟩ ('u' :: t)
  | long {t : Text} {v : Nat} {d : Char} : digitsAt? 16 8 t = some v → scalar? v = some d →
    BeginsWith ⟨.char d, 9⟩ ('U' :: t)

lemma beginsWith_of_escape? {t : Text} {e : Escape} (h : escape? t = some e) : BeginsWith e t := by
  cases t with
  | nil => contradiction
  | cons c t =>
    rw [escape?] at h
    cases hmark : simpleEscape? c with
    | some d =>
      rw [hmark] at h
      obtain rfl := Option.some.inj h
      exact .mark hmark
    | none =>
      rw [hmark] at h
      dsimp only at h
      split_ifs at h with hx hoctal hu hU
      · obtain ⟨v, hv, rfl⟩ := Option.map_eq_some_iff.mp h
        exact hx ▸ .hexByte hv
      · obtain ⟨v, hv, rfl⟩ := Option.map_eq_some_iff.mp h
        obtain ⟨hv, hle⟩ := Option.filter_eq_some_iff.mp hv
        exact .octalByte hv (of_decide_eq_true hle)
      · obtain ⟨d, hd, rfl⟩ := Option.map_eq_some_iff.mp h
        obtain ⟨v, hv, hscalar⟩ := Option.bind_eq_some_iff.mp hd
        exact hu ▸ .short hv hscalar
      · obtain ⟨d, hd, rfl⟩ := Option.map_eq_some_iff.mp h
        obtain ⟨v, hv, hscalar⟩ := Option.bind_eq_some_iff.mp hd
        exact hU ▸ .long hv hscalar

/-- A backslash with an escape `e` behind it is the front of a `Symbol`. -/
lemma exists_symbol {t : Text} {e : Escape} (h : escape? t = some e) :
    ∃ (s : Symbol) (rest : Text), '\\' :: t = s.spelling ++ rest := by
  cases beginsWith_of_escape? h with
  | mark hmark => exact ⟨.mark _ _ (mem_marks hmark), _, rfl⟩
  | hexByte hv =>
    obtain ⟨n, rest, rfl, -⟩ := exists_numeral (by decide) hv
    exact ⟨.hexByte n, rest, rfl⟩
  | octalByte hv hle =>
    obtain ⟨n, rest, rfl, rfl⟩ := exists_numeral (by decide) hv
    exact ⟨.octalByte n hle, rest, rfl⟩
  | short hv hscalar =>
    obtain ⟨n, rest, rfl, rfl⟩ := exists_numeral (by decide) hv
    exact ⟨.short n (valid_of_scalar? hscalar), rest, rfl⟩
  | long hv hscalar =>
    obtain ⟨n, rest, rfl, rfl⟩ := exists_numeral (by decide) hv
    exact ⟨.long n (valid_of_scalar? hscalar), rest, rfl⟩

/-- A symbol `s` is a plain character, or it is written with a backslash and an escape behind it. -/
lemma Symbol.plain_or_escape (s : Symbol) : (∃ c, c ≠ '\\' ∧ s.spelling = [c]) ∨
    ∃ t, s.spelling = '\\' :: t ∧ ∀ rest, escape? (t ++ rest) ≠ none := by
  cases s with
  | plain c h => exact .inl ⟨c, h, rfl⟩
  | mark letter c h =>
    exact .inr ⟨[letter], rfl, fun rest => Option.ne_none_iff_exists'.mpr ⟨_, escape?_mark rest h⟩⟩
  | hexByte n =>
    exact .inr ⟨_, rfl, fun rest => Option.ne_none_iff_exists'.mpr ⟨_, escape?_hexByte rest n⟩⟩
  | octalByte n h =>
    exact .inr ⟨_, rfl, fun rest => Option.ne_none_iff_exists'.mpr ⟨_, escape?_octalByte rest n h⟩⟩
  | short n h =>
    exact .inr ⟨_, rfl, fun rest => Option.ne_none_iff_exists'.mpr ⟨_, escape?_short rest n h⟩⟩
  | long n h =>
    exact .inr ⟨_, rfl, fun rest => Option.ne_none_iff_exists'.mpr ⟨_, escape?_long rest n h⟩⟩

/-- A symbol is written with at least one character. -/
lemma Symbol.length_spelling_pos (s : Symbol) : 0 < s.spelling.length := by
  rcases s.plain_or_escape with ⟨c, -, hs⟩ | ⟨t, hs, -⟩
  all_goals
    rw [hs]
    exact Nat.succ_pos _

/-- Every text `t` is a sequence of parts. -/
lemma exists_parts (t : Text) :
    ∃ parts, LoneBackslashes parts ∧ parts.flatMap Part.spelling = t := by
  -- on the length, since a symbol takes up several characters
  induction hlength : t.length using Nat.strong_induction_on generalizing t with
  | _ n ih =>
    cases t with
    | nil => exact ⟨[], trivial, rfl⟩
    | cons c t =>
      rw [List.length_cons] at hlength
      obtain ⟨parts, hlone, htext⟩ := ih t.length (by omega) t rfl
      by_cases hc : c = '\\'
      · rw [hc]
        cases hescape : escape? t with
        | none =>
          rw [← htext] at hescape
          exact ⟨.backslash :: parts, ⟨hescape, hlone⟩, by rw [← htext]; rfl⟩
        | some e =>
          obtain ⟨s, rest, hsymbol⟩ := exists_symbol hescape
          have hcount := congrArg List.length hsymbol
          rw [List.length_cons, List.length_append] at hcount
          have hpos := s.length_spelling_pos
          obtain ⟨others, hlone', hrest⟩ := ih rest.length (by omega) rest rfl
          exact ⟨.symbol s :: others, hlone', by rw [hsymbol, ← hrest]; rfl⟩
      · exact ⟨.symbol (.plain c hc) :: parts, hlone, by rw [← htext]; rfl⟩

/-! ## Parts in front of others and behind them -/

section

variable {before after : List Part}

lemma LoneBackslashes.of_append_right (h : LoneBackslashes (before ++ after)) :
    LoneBackslashes after := by
  induction before with
  | nil => exact h
  | cons part before ih =>
    cases part with
    | symbol s => exact ih h
    | backslash => exact ih h.2

/-- If the backslashes of `before ++ after` begin no escapes, then those of `before` begin none with
less behind them. -/
lemma LoneBackslashes.of_append_left (h : LoneBackslashes (before ++ after)) :
    LoneBackslashes before := by
  induction before with
  | nil => trivial
  | cons part before ih =>
    cases part with
    | symbol s => exact ih h
    | backslash =>
      refine ⟨?_, ih h.2⟩
      by_contra hescape
      obtain ⟨e, he⟩ := Option.ne_none_iff_exists'.mp hescape
      obtain ⟨s, rest, hsymbol⟩ := exists_symbol he
      rcases s.plain_or_escape with ⟨c, hc, hs⟩ | ⟨t, hs, hall⟩
      · rw [hs] at hsymbol
        exact hc (List.cons.inj hsymbol).1.symm
      · rw [hs, List.cons_append] at hsymbol
        have htext := (List.cons.inj hsymbol).2
        have hnone : escape? ((before ++ after).flatMap Part.spelling) = none := h.1
        rw [List.flatMap_append, htext, List.append_assoc] at hnone
        exact hall _ hnone

end

/-! ## Plain characters -/

/-- The `parts` of a literal are resolved by decoding their bytes together. -/
lemma resolve_flatMap_spelling {parts : List Part} (h : LoneBackslashes parts) :
    resolve (parts.flatMap Part.spelling) = Text.decodeLossy (parts.flatMap Part.bytes) := by
  rw [resolve, resolveBytes_flatMap_spelling h]

/-- A plain character `c` divides a literal into two that are resolved each for itself. -/
lemma resolve_append_plain_append {before after : List Part} {c : Char} {hc : c ≠ '\\'}
    (h : LoneBackslashes (before ++ .symbol (.plain c hc) :: after)) :
    resolve (before.flatMap Part.spelling ++ c :: after.flatMap Part.spelling) =
      resolve (before.flatMap Part.spelling) ++ c :: resolve (after.flatMap Part.spelling) := by
  have hafter : LoneBackslashes after := h.of_append_right
  have hwhole : before.flatMap Part.spelling ++ c :: after.flatMap Part.spelling =
      (before ++ .symbol (.plain c hc) :: after).flatMap Part.spelling := by
    rw [List.flatMap_append]
    rfl
  rw [hwhole, resolve_flatMap_spelling h, resolve_flatMap_spelling h.of_append_left,
    resolve_flatMap_spelling hafter, List.flatMap_append, List.flatMap_cons]
  exact Text.decodeLossy_append_encode_append _ _ c

/-- The character of a part that stands for itself, a backslash among them. -/
def Part.plain? : Part → Option Char
  | .symbol (.plain c _) => some c
  | .symbol _ => none
  | .backslash => some '\\'

/-- A part that stands for itself has the bytes of its character `c`. -/
lemma Part.bytes_of_plain? {part : Part} {c : Char} (h : part.plain? = some c) :
    part.bytes = Text.encode [c] := by
  unfold plain? at h
  split at h
  · cases h
    rfl
  · contradiction
  · cases h
    rfl

/-- The plain characters among `parts` are decoded in their order, whatever `bytes` come first. -/
lemma plain_sublist_decodeLossy (parts : List Part) (bytes : List UInt8) :
    (parts.filterMap Part.plain?).Sublist
      (Text.decodeLossy (bytes ++ parts.flatMap Part.bytes)) := by
  induction parts generalizing bytes with
  | nil => exact List.nil_sublist _
  | cons part parts ih =>
    rw [List.flatMap_cons]
    cases hplain : part.plain? with
    | none =>
      rw [List.filterMap_cons_none hplain, ← List.append_assoc]
      exact ih _
    | some c =>
      rw [List.filterMap_cons_some hplain, Part.bytes_of_plain? hplain,
        Text.decodeLossy_append_encode_append]
      exact ((ih []).cons_cons c).trans (List.sublist_append_right _ _)

/-- A plain character of a literal stays as it is, whatever escapes are in front of it and behind
it: what is on its two sides is resolved for itself, also if the bytes of the escapes there encode
no characters. This is so wherever the literal is divided at a character that is no backslash, and
every text between quotes has such parts. All plain characters of a literal are in its value, in
their order. -/
theorem resolve_around_plain_character :
    (∀ t : Text, ∃ parts, LoneBackslashes parts ∧ parts.flatMap Part.spelling = t) ∧
    (∀ (before after : List Symbol) (c : Char), c ≠ '\\' →
      resolve (before.flatMap Symbol.spelling ++ c :: after.flatMap Symbol.spelling) =
        resolve (before.flatMap Symbol.spelling) ++
          c :: resolve (after.flatMap Symbol.spelling)) ∧
    (∀ (before after : List Part) (c : Char) (hc : c ≠ '\\'),
      LoneBackslashes (before ++ .symbol (.plain c hc) :: after) →
        resolve (before.flatMap Part.spelling ++ c :: after.flatMap Part.spelling) =
          resolve (before.flatMap Part.spelling) ++
            c :: resolve (after.flatMap Part.spelling)) ∧
    ∀ parts : List Part, LoneBackslashes parts →
      (parts.filterMap Part.plain?).Sublist (resolve (parts.flatMap Part.spelling)) := by
  refine ⟨exists_parts, ?_, fun _ _ _ _ h => resolve_append_plain_append h, ?_⟩
  · intro before after c hc
    have hlone := loneBackslashes_map_symbol (before ++ .plain c hc :: after)
    rw [List.map_append, List.map_cons] at hlone
    have hresolve := resolve_append_plain_append hlone
    rw [List.flatMap_map, List.flatMap_map] at hresolve
    exact hresolve
  · intro parts h
    rw [resolve_flatMap_spelling h]
    exact plain_sublist_decodeLossy parts []

/-- A character that stands between the bytes of another one, and one behind a backslash that begins
no escape. -/
theorem resolve_around_plain_character_torn :
    resolve (lit "\\xe2\\202é\\x82") = lit "\ufffdé\ufffd" ∧
      resolve (lit "\\xC3\\251\\q\\u0041") =
        resolve (lit "\\xC3\\251\\") ++ 'q' :: resolve (lit "\\u0041") ∧
      ['\\', 'q'].Sublist (resolve (lit "\\xC3\\251\\q\\u0041")) := by
  obtain ⟨-, hsymbols, hparts, hplain⟩ := resolve_around_plain_character
  have hlone : LoneBackslashes mixedParts := ⟨by decide +kernel, trivial⟩
  have hmixed : mixedParts.flatMap Part.spelling = lit "\\xC3\\251\\q\\u0041" := by
    decide +kernel
  refine ⟨?_, ?_, ?_⟩
  · let e2 : Symbol := .hexByte ⟨[⟨14, false⟩, ⟨2, false⟩], rfl⟩
    let o202 : Symbol := .octalByte ⟨[⟨2, false⟩, ⟨0, false⟩, ⟨2, false⟩], rfl⟩ (by decide)
    let x82 : Symbol := .hexByte ⟨[⟨8, false⟩, ⟨2, false⟩], rfl⟩
    have hwhole : lit "\\xe2\\202é\\x82" =
        [e2, o202].flatMap Symbol.spelling ++ 'é' :: [x82].flatMap Symbol.spelling := by
      decide +kernel
    rw [hwhole, hsymbols [e2, o202] [x82] 'é' (by decide)]
    decide +kernel
  · have hbefore : (mixedParts.take 3).flatMap Part.spelling = lit "\\xC3\\251\\" := by
      decide +kernel
    have hafter : (mixedParts.drop 4).flatMap Part.spelling = lit "\\u0041" := by decide +kernel
    have hq := hparts (mixedParts.take 3) (mixedParts.drop 4) 'q' (by decide) hlone
    rw [hbefore, hafter] at hq
    rw [← hq]
    decide +kernel
  · rw [← hmixed]
    exact hplain mixedParts hlone

end RouteStubs.Syntax.StringLiteral
