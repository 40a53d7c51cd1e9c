import RouteStubs.Proofs.Syntax.PlainCharacters
import RouteStubs.Proofs.Text.Offsets

/-!
# Literals resolved in place

The escapes of a literal can be resolved in rounds. Each of them looks for the next backslash, takes
over the bytes in front of it and those that the escape stands for, and goes on behind the escape.
All places are counted in bytes, and the text that remains is never copied, only cut. If it were cut
inside of a character, or beyond its end, there would be no result.

This never happens: an escape is as many bytes long as it has characters, since its letter and its
digits are single bytes, and a number is not read where it would end inside of another character.
So the rounds lead to the same bytes as `resolveBytes`. There are no more rounds than backslashes,
and no more bytes are taken over than the literal has.
-/

namespace RouteStubs.Syntax.StringLiteral

/-! ## Escapes by their places -/

/-- The number written with `count` bytes of `t` from the byte `start` on. There is none unless the
text can be cut there and all characters between the cuts are digits. -/
def numberAt? (base start count : Nat) (t : Text) : Option Nat := do
  let (_, behind) ← Text.cutAt? start t
  let (digits, _) ← Text.cutAt? count behind
  Text.numberIn? base digits

/-- What the escape at the front of `t` stands for, and the number of its bytes. -/
def escapeInPlace? (t : Text) : Option (Denoted × Nat) :=
  match t with
  | [] => none
  | c :: _ =>
    match simpleEscape? c with
    | some d => some (.char d, 1)
    | none =>
      if c = 'x' then
        (numberAt? 16 1 2 t).map fun n => (.byte (UInt8.ofNat n), 3)
      else if Token.isOctalDigit c then
        ((numberAt? 8 0 3 t).filter fun n => decide (n ≤ 0xff)).map fun n =>
          (.byte (UInt8.ofNat n), 3)
      else if c = 'u' then
        ((numberAt? 16 1 4 t).bind scalar?).map fun d => (.char d, 5)
      else if c = 'U' then
        ((numberAt? 16 1 8 t).bind scalar?).map fun d => (.char d, 9)
      else none

/-- The `digits` of a number are single bytes. -/
lemma byteLength_of_numberIn? {base : Nat} (hbase : base ≤ 16) {digits : Text} {n : Nat}
    (h : Text.numberIn? base digits = some n) : Text.byteLength digits = digits.length := by
  have hdigits := Text.exists_digitIn?_of_numberIn? h
  have hsize : ∀ c ∈ digits, c.utf8Size = 1 := by
    intro c hc
    obtain ⟨d, hd⟩ := hdigits c hc
    obtain ⟨hlt, hchar⟩ := Text.char_of_digitIn? hd
    have hall : ∀ d < 16, d.digitChar.utf8Size = 1 ∧ d.digitChar.toUpper.utf8Size = 1 := by
      decide +kernel
    obtain ⟨hlower, hupper⟩ := hall d (Nat.lt_of_lt_of_le hlt hbase)
    rcases hchar with rfl | rfl
    · exact hlower
    · exact hupper
  clear h hdigits
  induction digits with
  | nil => rfl
  | cons c digits ih =>
    rw [List.forall_mem_cons] at hsize
    rw [Text.byteLength_cons, hsize.1, ih hsize.2, List.length_cons, Nat.add_comm]

/-- A number `n` is found by `digitsAt?` where its digits stand in front of something. -/
lemma digitsAt?_eq_some_iff {base count n : Nat} {t : Text} :
    digitsAt? base count t = some n ↔
      ∃ digits rest, t = digits ++ rest ∧ digits.length = count ∧
        Text.numberIn? base digits = some n := by
  constructor
  · intro h
    unfold digitsAt? at h
    split_ifs at h with hlength
    exact ⟨_, _, (List.take_append_drop count t).symm, hlength, h⟩
  · rintro ⟨digits, rest, rfl, hlength, hnumber⟩
    rw [digitsAt?_append hlength, hnumber]

/-- Counting the bytes of a number is counting its characters: `numberAt?` is `digitsAt?`. If
another character is among them, there is no number in either case, even if it is cut. -/
lemma numberAt?_zero {base : Nat} (hbase : base ≤ 16) (count : Nat) (t : Text) :
    numberAt? base 0 count t = digitsAt? base count t := by
  ext n
  simp only [numberAt?, Text.cutAt?, Option.bind_eq_bind, Option.bind_some,
    Option.bind_eq_some_iff, Prod.exists, Text.cutAt?_eq_some_iff, digitsAt?_eq_some_iff]
  constructor
  · rintro ⟨digits, rest, ⟨rfl, hcount⟩, hnumber⟩
    rw [byteLength_of_numberIn? hbase hnumber] at hcount
    exact ⟨digits, rest, rfl, hcount, hnumber⟩
  · rintro ⟨digits, rest, rfl, hcount, hnumber⟩
    rw [← byteLength_of_numberIn? hbase hnumber] at hcount
    exact ⟨digits, rest, ⟨rfl, hcount⟩, hnumber⟩

/-- A letter `c` in front of a number is a single byte. -/
lemma numberAt?_one {base : Nat} (hbase : base ≤ 16) {c : Char} (hc : c.utf8Size = 1) (count : Nat)
    (t : Text) : numberAt? base 1 count (c :: t) = digitsAt? base count t := by
  have hcut : Text.cutAt? 1 (c :: t) = some ([c], t) :=
    Text.cutAt?_eq_some_iff.mpr ⟨rfl, by rw [Text.byteLength_cons, hc, Text.byteLength_nil]⟩
  rw [← numberAt?_zero hbase, numberAt?, numberAt?, hcut, Text.cutAt?]
  rfl

/-- The same escapes are found by `escapeInPlace?` as by `escape?`, and they have as many bytes as
characters. -/
lemma escapeInPlace?_eq (t : Text) :
    escapeInPlace? t = (escape? t).map fun e => (e.denoted, e.width) := by
  cases t with
  | nil => rfl
  | cons c t =>
    rw [escapeInPlace?, escape?]
    cases simpleEscape? c with
    | some d => rfl
    | none =>
      dsimp only
      split_ifs with hx hoctal hu hU
      · rw [hx, numberAt?_one (by decide) (by decide), Option.map_map]
        rfl
      · rw [numberAt?_zero (by decide), Option.map_map]
        rfl
      · rw [hu, numberAt?_one (by decide) (by decide), Option.map_map]
        rfl
      · rw [hU, numberAt?_one (by decide) (by decide), Option.map_map]
        rfl
      · rfl

/-- Behind a single byte `c` the text is cut as if its bytes were characters, if it is so without
it. -/
lemma cutAt?_succ_cons {c : Char} (hc : c.utf8Size = 1) {n : Nat} {t : Text}
    (h : Text.cutAt? n t = some (t.take n, t.drop n)) :
    Text.cutAt? (n + 1) (c :: t) = some ((c :: t).take (n + 1), (c :: t).drop (n + 1)) := by
  obtain ⟨-, hn⟩ := Text.cutAt?_eq_some_iff.mp h
  refine Text.cutAt?_eq_some_iff.mpr ⟨(List.take_append_drop _ _).symm, ?_⟩
  rw [List.take_succ_cons, Text.byteLength_cons, hn, hc, Nat.add_comm]

/-- Behind the digits of a number `cutAt?` cuts the text as if its bytes were characters. -/
lemma cutAt?_of_digitsAt? {base : Nat} (hbase : base ≤ 16) {count n : Nat} {t : Text}
    (h : digitsAt? base count t = some n) :
    Text.cutAt? count t = some (t.take count, t.drop count) := by
  obtain ⟨digits, rest, rfl, rfl, hnumber⟩ := digitsAt?_eq_some_iff.mp h
  rw [List.take_left, List.drop_left]
  exact Text.cutAt?_eq_some_iff.mpr ⟨rfl, byteLength_of_numberIn? hbase hnumber⟩

/-- Behind an escape `e` the text is cut by `cutAt?` as if its bytes were characters. -/
lemma cutAt?_of_escape? {t : Text} {e : Escape} (h : escape? t = some e) :
    Text.cutAt? e.width t = some (t.take e.width, t.drop e.width) := by
  cases beginsWith_of_escape? h with
  | mark hmark =>
    have hall : ∀ p ∈ marks, p.1.utf8Size = 1 := by decide +kernel
    exact cutAt?_succ_cons (hall _ (mem_marks hmark)) (by rw [Text.cutAt?]; rfl)
  | hexByte hv => exact cutAt?_succ_cons (by decide) (cutAt?_of_digitsAt? (by decide) hv)
  | octalByte hv => exact cutAt?_of_digitsAt? (by decide) hv
  | short hv => exact cutAt?_succ_cons (by decide) (cutAt?_of_digitsAt? (by decide) hv)
  | long hv => exact cutAt?_succ_cons (by decide) (cutAt?_of_digitsAt? (by decide) hv)

lemma width_pos_of_escape? {t : Text} {e : Escape} (h : escape? t = some e) : 0 < e.width := by
  cases beginsWith_of_escape? h <;> exact Nat.succ_pos _

/-- The number `used` of the bytes of an escape is a boundary of the text behind its backslash. -/
lemma isBoundary_of_escapeInPlace? {t : Text} {denoted : Denoted} {used : Nat}
    (h : escapeInPlace? t = some (denoted, used)) :
    0 < used ∧ used ≤ Text.byteLength t ∧ Text.IsBoundary t used := by
  rw [escapeInPlace?_eq, Option.map_eq_some_iff] at h
  obtain ⟨e, hescape, hpair⟩ := h
  obtain ⟨rfl, rfl⟩ := Prod.mk.inj hpair
  have hcut := cutAt?_of_escape? hescape
  obtain ⟨htext, hused⟩ := Text.cutAt?_eq_some_iff.mp hcut
  have hsize := congrArg Text.byteLength htext
  rw [Text.byteLength_append, hused] at hsize
  exact ⟨width_pos_of_escape? hescape, by omega, Text.isSome_cutAt?_iff.mp (by rw [hcut]; rfl)⟩

/-- An escape `e` stands for no more bytes than it has characters. -/
lemma length_bytes_le_of_escape? {t : Text} {e : Escape} (h : escape? t = some e) :
    e.denoted.bytes.length ≤ e.width := by
  have hchar (c : Char) : (Denoted.char c).bytes.length = c.utf8Size := by
    rw [Denoted.bytes, Text.encode, List.flatMap_singleton, String.length_utf8EncodeChar]
  cases beginsWith_of_escape? h with
  | mark hmark =>
    have hall : ∀ p ∈ marks, p.2.utf8Size = 1 := by decide +kernel
    rw [hchar, hall _ (mem_marks hmark)]
  | hexByte hv => exact Nat.le_add_left 1 2
  | octalByte hv => exact Nat.le_add_left 1 2
  | short hv =>
    rw [hchar]
    exact Nat.le_trans (Char.utf8Size_le_four _) (Nat.le_add_right 4 1)
  | long hv =>
    rw [hchar]
    exact Nat.le_trans (Char.utf8Size_le_four _) (Nat.le_add_right 4 5)

/-! ## Rounds -/

/-- What a round of the loop does. -/
inductive Round where
  /-- There are no more backslashes: the bytes that are left are taken over. -/
  | last (bytes : List UInt8)
  /-- Some bytes are taken over, and some text remains. -/
  | next (bytes : List UInt8) (rest : Text)
  deriving DecidableEq

/-- A round on the text `t`. There is none if the text would have to be cut where no character
begins. -/
def round? (t : Text) : Option Round :=
  match Text.placeOf? '\\' t with
  | none => some (.last (Text.encode t))
  | some place => do
    let (before, _) ← Text.cutAt? place t
    let (_, behind) ← Text.cutAt? (place + 1) t
    match escapeInPlace? behind with
    | none => some (.next (Text.encode before ++ Text.encode ['\\']) behind)
    | some (denoted, used) =>
      let (_, rest) ← Text.cutAt? used behind
      some (.next (Text.encode before ++ denoted.bytes) rest)

/-- After a number of rounds on `t` the given bytes have been taken over, and the given text
remains. -/
inductive Reaches (t : Text) : Nat → List UInt8 → Text → Prop
  | start : Reaches t 0 [] t
  | round {rounds : Nat} {bytes more : List UInt8} {rest rest' : Text} :
    Reaches t rounds bytes rest → round? rest = some (.next more rest') →
      Reaches t (rounds + 1) (bytes ++ more) rest'

lemma round?_of_not_mem {t : Text} (h : '\\' ∉ t) : round? t = some (.last (Text.encode t)) := by
  rw [round?, Text.placeOf?_of_not_mem h]

/-- The `round?` on a text divides it at its first backslash, and again behind the escape that
begins there, if one does. -/
lemma round?_append {before : Text} (h : '\\' ∉ before) (behind : Text) :
    round? (before ++ '\\' :: behind) =
      match escape? behind with
      | none => some (.next (Text.encode before ++ Text.encode ['\\']) behind)
      | some e => some (.next (Text.encode before ++ e.denoted.bytes) (behind.drop e.width)) := by
  have hcut : Text.cutAt? (Text.byteLength before) (before ++ '\\' :: behind) =
      some (before, '\\' :: behind) := Text.cutAt?_eq_some_iff.mpr ⟨rfl, rfl⟩
  have hcut' : Text.cutAt? (Text.byteLength before + 1) (before ++ '\\' :: behind) =
      some (before ++ ['\\'], behind) :=
    Text.cutAt?_eq_some_iff.mpr ⟨by simp, by rw [Text.byteLength_append]; rfl⟩
  rw [round?, Text.placeOf?_append h]
  simp only [hcut, hcut', Option.bind_eq_bind, Option.bind_some]
  rw [escapeInPlace?_eq]
  cases hescape : escape? behind with
  | none => rfl
  | some e =>
    dsimp only [Option.map_some]
    rw [cutAt?_of_escape? hescape, Option.bind_some]

/-- What `rounds` on `t` lead to: the `bytes` that have been taken over are the first ones of
`resolveBytes t`, and the others are those of the text `rest` that remains. This is an end of `t`,
in which each round has used up a backslash, and no more bytes have been taken over than `t` has
lost. -/
structure Progress (t : Text) (rounds : Nat) (bytes : List UInt8) (rest : Text) : Prop where
  suffix : rest <:+ t
  resolved : resolveBytes t = bytes ++ resolveBytes rest
  size : bytes.length + Text.byteLength rest ≤ Text.byteLength t
  backslashes : rounds + rest.count '\\' ≤ t.count '\\'

lemma Progress.trans {t rest rest' : Text} {m n : Nat} {bytes more : List UInt8}
    (h : Progress t m bytes rest) (h' : Progress rest n more rest') :
    Progress t (m + n) (bytes ++ more) rest' where
  suffix := h'.suffix.trans h.suffix
  resolved := by rw [h.resolved, h'.resolved, List.append_assoc]
  size := by
    have hsize := h.size
    have hsize' := h'.size
    rw [List.length_append]
    omega
  backslashes := by
    have hcount := h.backslashes
    have hcount' := h'.backslashes
    omega

/-- The text `rest` that remains begins at a boundary of `t`. -/
lemma Progress.exists_place {t rest : Text} {rounds : Nat} {bytes : List UInt8}
    (h : Progress t rounds bytes rest) :
    ∃ place, Text.IsBoundary t place ∧ Text.encode rest = (Text.encode t).drop place := by
  obtain ⟨before, rfl⟩ := h.suffix
  refine ⟨Text.byteLength before, Text.isBoundary_iff.mpr ⟨before, rest, rfl, rfl⟩, ?_⟩
  rw [Text.byteLength_eq, Text.encode, Text.encode, Text.encode, List.flatMap_append,
    List.drop_left]

/-- Characters `before` that are no backslashes are resolved by `resolveBytes` to their own bytes.
-/
lemma resolveBytes_append_of_not_mem {before : Text} (h : '\\' ∉ before) (rest : Text) :
    resolveBytes (before ++ rest) = Text.encode before ++ resolveBytes rest := by
  induction before with
  | nil => rfl
  | cons c before ih =>
    rw [List.mem_cons, not_or] at h
    rw [List.cons_append, resolveBytes, if_neg fun hc => h.1 hc.symm, ih h.2, ← List.append_assoc]
    simp [Text.encode]

/-- A round makes `Progress` if it takes over the bytes `before` the first backslash, and then
`bytes` to which the text from the backslash up to `rest` is resolved. -/
lemma progress_of_backslash {before behind rest : Text} {bytes : List UInt8} (h : '\\' ∉ before)
    (hrest : rest <:+ behind) (hbytes : resolveBytes ('\\' :: behind) = bytes ++ resolveBytes rest)
    (hsize : bytes.length + Text.byteLength rest ≤ Text.byteLength behind + 1) :
    Progress (before ++ '\\' :: behind) 1 (Text.encode before ++ bytes) rest where
  suffix := hrest.trans ((List.suffix_cons _ _).trans (List.suffix_append _ _))
  resolved := by rw [resolveBytes_append_of_not_mem h, hbytes, List.append_assoc]
  size := by
    have hbackslash : '\\'.utf8Size = 1 := rfl
    rw [List.length_append, ← Text.byteLength_eq, Text.byteLength_append, Text.byteLength_cons]
    omega
  backslashes := by
    have hcount := hrest.sublist.count_le '\\'
    rw [List.count_append, List.count_cons_self]
    omega

/-- Every text `t` has a `round?`. The last one resolves all of it, and every other one makes
`Progress`. -/
lemma exists_round (t : Text) :
    (round? t = some (.last (resolveBytes t)) ∧ (resolveBytes t).length = Text.byteLength t) ∨
      ∃ more rest, round? t = some (.next more rest) ∧ Progress t 1 more rest := by
  by_cases hmem : '\\' ∈ t
  · right
    obtain ⟨before, behind, rfl, hbefore⟩ := List.eq_append_cons_of_mem hmem
    have hround := round?_append hbefore behind
    cases hescape : escape? behind with
    | none =>
      rw [hescape] at hround
      have hbytes : resolveBytes ('\\' :: behind) = Text.encode ['\\'] ++ resolveBytes behind := by
        rw [resolveBytes, if_pos rfl, hescape]
      refine ⟨_, _, hround, progress_of_backslash hbefore (List.suffix_refl _) hbytes ?_⟩
      rw [← Text.byteLength_eq, Nat.add_comm]
      exact Nat.le_refl _
    | some e =>
      rw [hescape] at hround
      have hbytes : resolveBytes ('\\' :: behind) =
          e.denoted.bytes ++ resolveBytes (behind.drop e.width) := by
        rw [resolveBytes, if_pos rfl, hescape]
      refine ⟨_, _, hround, progress_of_backslash hbefore (List.drop_suffix _ _) hbytes ?_⟩
      obtain ⟨htext, hwidth⟩ := Text.cutAt?_eq_some_iff.mp (cutAt?_of_escape? hescape)
      have hsize := congrArg Text.byteLength htext
      rw [Text.byteLength_append, hwidth] at hsize
      have hle := length_bytes_le_of_escape? hescape
      omega
  · left
    have hresolve := resolveBytes_append_of_not_mem hmem []
    rw [List.append_nil, resolveBytes, List.append_nil] at hresolve
    rw [hresolve, Text.byteLength_eq]
    exact ⟨round?_of_not_mem hmem, rfl⟩

/-- A `round?` that is not the last one makes `Progress`. -/
lemma progress_of_round? {t rest : Text} {more : List UInt8}
    (h : round? t = some (.next more rest)) : Progress t 1 more rest := by
  rcases exists_round t with ⟨hlast, -⟩ | ⟨more', rest', hnext, hprogress⟩
  · rw [hlast] at h
    cases h
  · rw [hnext] at h
    cases h
    exact hprogress

/-- Rounds make `Progress`, one after the other: the induction is on how `Reaches` has come about.
-/
lemma Reaches.progress {t rest : Text} {rounds : Nat} {bytes : List UInt8}
    (h : Reaches t rounds bytes rest) : Progress t rounds bytes rest := by
  induction h with
  | start => exact ⟨List.suffix_refl t, rfl, by simp, by simp⟩
  | round _ hround ih => exact ih.trans (progress_of_round? hround)

/-- From wherever the rounds have led they go on to a last one. The induction is on the number of
backslashes that are left in `rest`. -/
lemma Reaches.exists_last {t rest : Text} {rounds : Nat} {bytes : List UInt8}
    (h : Reaches t rounds bytes rest) :
    ∃ rounds' bytes' rest', Reaches t rounds' bytes' rest' ∧
      round? rest' = some (.last (resolveBytes rest')) ∧
      (resolveBytes rest').length = Text.byteLength rest' := by
  induction hcount : rest.count '\\' using Nat.strong_induction_on generalizing rounds bytes rest with
  | _ n ih =>
    rcases exists_round rest with ⟨hlast, hlength⟩ | ⟨more, rest', hnext, hprogress⟩
    · exact ⟨rounds, bytes, rest, h, hlast, hlength⟩
    · have hless := hprogress.backslashes
      exact ih _ (by omega) (h.round hnext) rfl

/-- Literals can be resolved in place. The places of escapes in bytes are those in characters; they
are behind the front of the text and not beyond its end, and a character begins there or the text
ends. Whatever the text, every round that is reached has a result. What remains is always less than
before and begins at a boundary of the text, and no more bytes are taken over than the text has. The
rounds come to an end, no later than the backslashes, and have then resolved the text. -/
theorem resolve_in_place :
    (∀ t, escapeInPlace? t = (escape? t).map fun e => (e.denoted, e.width)) ∧
    (∀ t denoted used, escapeInPlace? t = some (denoted, used) →
      0 < used ∧ used ≤ Text.byteLength t ∧ Text.IsBoundary t used) ∧
    ∀ t : Text,
      (∀ rounds bytes rest, Reaches t rounds bytes rest →
        (∃ place, Text.IsBoundary t place ∧ Text.encode rest = (Text.encode t).drop place) ∧
        rounds ≤ t.count '\\' ∧
        bytes.length + Text.byteLength rest ≤ Text.byteLength t ∧
        ∃ round, round? rest = some round ∧
          ∀ more rest', round = .next more rest' → rest' <:+ rest ∧ rest' ≠ rest) ∧
      ∃ rounds bytes rest last, Reaches t rounds bytes rest ∧ round? rest = some (.last last) ∧
        (bytes ++ last).length ≤ Text.byteLength t ∧
        resolve t = Text.decodeLossy (bytes ++ last) := by
  refine ⟨escapeInPlace?_eq, fun _ _ _ h => isBoundary_of_escapeInPlace? h, fun t => ⟨?_, ?_⟩⟩
  · intro rounds bytes rest h
    have hprogress := h.progress
    refine ⟨hprogress.exists_place, Nat.le_trans (Nat.le_add_right _ _) hprogress.backslashes,
      hprogress.size, ?_⟩
    rcases exists_round rest with ⟨hlast, -⟩ | ⟨more, rest', hnext, hprogress'⟩
    · exact ⟨_, hlast, fun _ _ hround => by cases hround⟩
    · refine ⟨_, hnext, fun _ _ hround => ?_⟩
      cases hround
      refine ⟨hprogress'.suffix, ?_⟩
      rintro rfl
      exact absurd hprogress'.backslashes (by omega)
  · obtain ⟨rounds, bytes, rest, h, hlast, hlength⟩ := Reaches.start.exists_last (t := t)
    have hprogress := h.progress
    refine ⟨rounds, bytes, rest, _, h, hlast, ?_, ?_⟩
    · rw [List.length_append, hlength]
      exact hprogress.size
    · rw [resolve, hprogress.resolved]

/-- A numeric escape, one that would end inside of a character, and a backslash at the end. The
place behind the first one is a boundary, and the second one is none. What remains after a round
begins at the seventh byte, and the next round goes on from there. -/
theorem resolve_in_place_cut :
    (escapeInPlace? (lit "u00e9\\x6é\\") = some (.char 'é', 5) ∧
      Text.IsBoundary (lit "u00e9\\x6é\\") 5) ∧
    (¬ Text.IsBoundary (lit "x6é\\") 3 ∧ escapeInPlace? (lit "x6é\\") = none) ∧
    Reaches (lit "\\u00e9\\x6é\\") 1 (Text.encode ['é']) (lit "\\x6é\\") ∧
    1 ≤ (lit "\\u00e9\\x6é\\").count '\\' ∧
    (Text.encode ['é']).length + Text.byteLength (lit "\\x6é\\") ≤
      Text.byteLength (lit "\\u00e9\\x6é\\") ∧
    round? (lit "\\x6é\\") = some (.next (Text.encode ['\\']) (lit "x6é\\")) ∧
    lit "x6é\\" <:+ lit "\\x6é\\" := by
  obtain ⟨-, hescapes, hrounds⟩ := resolve_in_place
  have hescape : escapeInPlace? (lit "u00e9\\x6é\\") = some (.char 'é', 5) := by decide +kernel
  have hreaches : Reaches (lit "\\u00e9\\x6é\\") 1 (Text.encode ['é']) (lit "\\x6é\\") :=
    Reaches.start.round (by decide +kernel)
  have hnext : round? (lit "\\x6é\\") = some (.next (Text.encode ['\\']) (lit "x6é\\")) := by
    decide +kernel
  obtain ⟨-, hbackslashes, hsize, round, hround, hrest⟩ := (hrounds _).1 _ _ _ hreaches
  rw [hnext] at hround
  obtain rfl := Option.some.inj hround
  exact ⟨⟨hescape, (hescapes _ _ _ hescape).2.2⟩, ⟨by decide +kernel, by decide +kernel⟩, hreaches,
    hbackslashes, hsize, hnext, (hrest _ _ rfl).1⟩

end RouteStubs.Syntax.StringLiteral
