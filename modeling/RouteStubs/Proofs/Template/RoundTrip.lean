import RouteStubs.Proofs.Template.Parts
import RouteStubs.Template.Parser

/-!
# Reading back templates

Reading a template yields canonical parts, and every canonical list of parts is what is read when it
is written down. So nothing is lost between a template and its text, and what has been read once is
read in the same way forever. No field of a template that has been read is without a value.
-/

namespace RouteStubs.Template

/-- Reads a template as a list of parts. -/
def readParts (t : Text) : Except Fault (List Part) :=
  (parse t).map parts

/-! ## From parts to their text and back -/

/-- The `name` can be read back from between double braces. -/
structure Bracketable (name : Text) : Prop where
  pairFree : PairFree '\x7d' (name ++ ['\x7d'])
  trim_eq : Text.trim name = name

/-- A character of the names between double braces. -/
def isNameCharacter (c : Char) : Bool :=
  (lit "abcdefghijklmnopqrstuvwxyz_#/").contains c

lemma isSpace_of_isNameCharacter {c : Char} (h : isNameCharacter c = true) :
    Text.isSpace c = false := by
  have hall : (lit "abcdefghijklmnopqrstuvwxyz_#/").all (fun c => !Text.isSpace c) = true := by
    decide +kernel
  simpa using List.all_eq_true.mp hall c (List.contains_iff_mem.mp h)

/-- A `name` of such characters has no braces and no space around it. -/
lemma bracketable_of_all {name : Text} (h : name.all isNameCharacter = true) :
    Bracketable name where
  pairFree := by
    have hbrace : '\x7d' ∉ name := fun hmem =>
      absurd (List.all_eq_true.mp h _ hmem) (by simp [isNameCharacter, lit])
    refine pairFree_append_singleton.mpr ⟨fun hpair => hbrace (hpair.subset (by simp)), ?_⟩
    exact fun hlast => hbrace (List.mem_of_getLast? hlast)
  trim_eq := by
    have hspace (t : Text) (ht : ∀ c ∈ t, isNameCharacter c = true) :
        t.dropWhile Text.isSpace = t := by
      cases t with
      | nil => rfl
      | cons c t => simp [isSpace_of_isNameCharacter (ht c List.mem_cons_self)]
    have hname := List.all_eq_true.mp h
    rw [Text.trim, Text.trimLeft, hspace name hname, Text.trimRight,
      hspace _ fun c hc => hname c (List.mem_reverse.mp hc), List.reverse_reverse]

lemma bracketable_openTag : Bracketable openTag :=
  bracketable_of_all rfl

lemma bracketable_closeTag : Bracketable closeTag :=
  bracketable_of_all rfl

lemma FileField.bracketable_tag (f : FileField) : Bracketable f.tag := by
  cases f <;> exact bracketable_of_all rfl

lemma HandlerField.bracketable_tag (f : HandlerField) : Bracketable f.tag := by
  cases f <;> exact bracketable_of_all rfl

/-- Only the tags of sections take up a line break by `afterTag`. -/
lemma afterTag_of_ne {name : Text} (hopen : name ≠ openTag) (hclose : name ≠ closeTag)
    (rest : Text) : afterTag name rest = rest := by
  unfold afterTag
  split
  · simp [hopen, hclose]
  · rfl

lemma FileField.tag_ne (f : FileField) : f.tag ≠ openTag ∧ f.tag ≠ closeTag := by
  cases f <;> decide

lemma HandlerField.tag_ne (f : HandlerField) : f.tag ≠ openTag ∧ f.tag ≠ closeTag := by
  cases f <;> decide

lemma FileField.ofName?_tag (f : FileField) : FileField.ofName? f.tag = some f := by
  cases f <;> rfl

lemma HandlerField.ofName?_tag (f : HandlerField) : HandlerField.ofName? f.tag = some f := by
  cases f <;> rfl

/-- Parts `ps` that do not begin with text are written with opening braces first. -/
lemma exists_printParts_append {ps : List Part} (h : BeginsWithTag ps) {rest : Text}
    (hrest : ∃ u, rest = '\x7b' :: '\x7b' :: u) :
    ∃ u, printParts ps ++ rest = '\x7b' :: '\x7b' :: u := by
  cases ps with
  | nil => simpa [printParts] using hrest
  | cons p ps =>
    cases p with
    | text t => exact absurd rfl (h t)
    | field f => exact ⟨_, rfl⟩
    | handlers body => exact ⟨_, rfl⟩

/-- The body of a section is read back up to the tag that closes it, after what has been gathered
already. The induction is on the body; what it adds to `gathered` is kept in order. -/
lemma assemble_section (body gathered : List HandlerSegment)
    (h : CanonicalSection (body.map HandlerSegment.toPart)) (offset : Nat) (rest : Text) :
    ∃ next, assemble (some gathered) (chunksFrom offset
        (printParts (body.map HandlerSegment.toPart) ++ (braced closeTag ++ '\n' :: rest))) =
      (assemble none (chunksFrom next rest)).map (.handlers (gathered ++ body) :: ·) := by
  induction body generalizing gathered offset with
  | nil =>
    refine ⟨placeAfter offset closeTag ('\n' :: rest), ?_⟩
    rw [List.map_nil, printParts, List.nil_append,
      chunksFrom_braced _ bracketable_closeTag.pairFree bracketable_closeTag.trim_eq, assemble,
      if_neg (by decide), if_pos rfl, List.append_nil]
    rfl
  | cons s body ih =>
    obtain ⟨htext, -, -, hbody⟩ := canonicalSection_cons.mp h
    cases s with
    | text t =>
      obtain ⟨⟨⟨hne, hfree⟩, hhead⟩, hlast⟩ := htext t rfl
      have hclosed : ∃ u, braced closeTag ++ '\n' :: rest = '\x7b' :: '\x7b' :: u := ⟨_, rfl⟩
      obtain ⟨u, hu⟩ := exists_printParts_append hhead hclosed
      obtain ⟨next, hnext⟩ := ih (gathered ++ [.text t]) hbody (offset + Text.byteLength t)
      refine ⟨next, ?_⟩
      rw [hu] at hnext
      rw [List.map_cons, printParts, List.append_assoc, hu, HandlerSegment.toPart, Part.print,
        chunksFrom_text _ hne (pairFree_append_singleton.mpr ⟨hfree, hlast⟩), assemble, hnext,
        List.append_assoc]
      rfl
    | field f =>
      obtain ⟨hopen, hclose⟩ := f.tag_ne
      have hprint : (HandlerSegment.field f).toPart.print = braced f.tag := by
        rw [HandlerSegment.toPart, Part.print, HandlerField.tag_toField]
      obtain ⟨next, hnext⟩ := ih (gathered ++ [.field f]) hbody
        (placeAfter offset f.tag
          (printParts (body.map HandlerSegment.toPart) ++ (braced closeTag ++ '\n' :: rest)))
      refine ⟨next, ?_⟩
      rw [List.map_cons, printParts, List.append_assoc, hprint,
        chunksFrom_braced _ f.bracketable_tag.pairFree f.bracketable_tag.trim_eq,
        afterTag_of_ne hopen hclose, assemble, if_neg hopen, if_neg hclose, f.ofName?_tag]
      rw [List.append_assoc, List.singleton_append] at hnext
      exact hnext

/-- A template `T` whose parts are canonical is read back from its text. The induction is on its
segments. -/
lemma assemble_printParts (T : Template) (h : Canonical (parts T)) (offset : Nat) :
    assemble none (chunksFrom offset (printParts (parts T))) = .ok T := by
  induction T generalizing offset with
  | nil =>
    rw [parts, List.map_nil, printParts, chunksFrom_of_pairFree _ (pairFree_nil _)]
    rfl
  | cons s T ih =>
    obtain ⟨htext, -, hsection, hparts⟩ := canonical_cons.mp h
    rw [parts, List.map_cons, printParts, ← parts]
    cases s with
    | text t =>
      obtain ⟨⟨⟨hne, hfree⟩, hhead⟩, hlast⟩ := htext t rfl
      rw [Segment.toPart, Part.print]
      cases T with
      | nil =>
        -- Only here can the text end with a brace, since nothing follows it.
        rw [parts, List.map_nil, printParts, List.append_nil, chunksFrom_of_pairFree _ hfree]
        simp [plain, hne, assemble, Except.map]
      | cons s' T =>
        have hlast' := hlast (by simp)
        obtain ⟨u, hu⟩ : ∃ u, printParts (parts (s' :: T)) = '\x7b' :: '\x7b' :: u := by
          cases s' with
          | text t => exact absurd rfl (hhead t)
          | field f => exact ⟨_, rfl⟩
          | handlers body => exact ⟨_, rfl⟩
        have hrest := ih hparts (offset + Text.byteLength t)
        rw [hu] at hrest ⊢
        rw [chunksFrom_text _ hne (pairFree_append_singleton.mpr ⟨hfree, hlast'⟩), assemble, hrest]
        rfl
    | field f =>
      obtain ⟨hopen, hclose⟩ := f.tag_ne
      rw [Segment.toPart, Part.print, FileField.tag_toField,
        chunksFrom_braced _ f.bracketable_tag.pairFree f.bracketable_tag.trim_eq,
        afterTag_of_ne hopen hclose, assemble, if_neg hopen, if_neg hclose, f.ofName?_tag,
        ih hparts]
      rfl
    | handlers body =>
      have hbreak (rest : Text) : afterTag openTag ('\n' :: rest) = rest := rfl
      obtain ⟨next, hnext⟩ := assemble_section body [] (hsection _ rfl)
        (placeAfter offset openTag ('\n' :: (printParts (body.map HandlerSegment.toPart) ++
          (braced closeTag ++ '\n' :: printParts (parts T))))) (printParts (parts T))
      rw [ih hparts] at hnext
      rw [Segment.toPart, Part.print]
      simp only [List.append_assoc, List.cons_append, List.nil_append]
      rw [chunksFrom_braced _ bracketable_openTag.pairFree bracketable_openTag.trim_eq, hbreak,
        assemble, if_pos rfl, hnext]
      rfl

/-- Canonical parts `ps` are read back from their text. -/
lemma readParts_printParts {ps : List Part} (h : Canonical ps) :
    readParts (printParts ps) = .ok ps := by
  obtain ⟨T, rfl⟩ := exists_parts_eq h
  rw [readParts, parse, chunks, assemble_printParts T h 0]
  rfl

/-! ## From a text to its parts -/

/-- What is known about the parts `ps` that `chunks` have been turned into: if the first one is a
text, then so is the first chunk. -/
def TextsFrom (ps : List Part) (chunks : List Chunk) : Prop :=
  ∀ t, ps.head? = some (.text t) → chunks.head? = some (.text t)

/-- Parts `ps` from chunks without a text in front begin with a tag. -/
lemma TextsFrom.beginsWithTag {ps : List Part} {chunks : List Chunk} (h : TextsFrom ps chunks)
    (hhead : ∀ u, chunks.head? ≠ some (.text u)) : BeginsWithTag ps :=
  fun t ht => hhead t (h t ht)

/-- What `assemble` makes of spaced `chunks` outside of a section: canonical parts. -/
def FileReads (chunks : List Chunk) : Prop :=
  ∀ T, assemble none chunks = .ok T → Canonical (parts T) ∧ TextsFrom (parts T) chunks

/-- What `assemble` makes of spaced `chunks` inside a section: the section is closed, its body goes
on with canonical parts, and canonical parts follow it. -/
def SectionReads (chunks : List Chunk) : Prop :=
  ∀ gathered T, assemble (some gathered) chunks = .ok T →
    ∃ body T', T = .handlers (gathered ++ body) :: T' ∧
      CanonicalSection (body.map HandlerSegment.toPart) ∧
      TextsFrom (body.map HandlerSegment.toPart) chunks ∧ Canonical (parts T')

/-- A success that has been changed by `map` was a success before. -/
lemma exists_of_map_eq_ok {T : Template} {r : Except Fault Template} {s : Segment}
    (h : r.map (s :: ·) = .ok T) : ∃ T', r = .ok T' ∧ T = s :: T' := by
  cases r with
  | error fault => simp [Except.map] at h
  | ok T' => exact ⟨T', rfl, by simpa [Except.map, eq_comm] using h⟩

/-- A text chunk `t` outside of a section. -/
lemma fileReads_text {t : Text} {chunks : List Chunk} (h : Spaced (.text t :: chunks))
    (ih : FileReads chunks) : FileReads (.text t :: chunks) := by
  intro T hT
  obtain ⟨htext, hlast, hhead, -⟩ := h
  rw [assemble] at hT
  obtain ⟨T', hT', rfl⟩ := exists_of_map_eq_ok hT
  obtain ⟨hcanonical, hfrom⟩ := ih T' hT'
  -- Where no chunk follows, nothing is read, so a text before a part is a text before a chunk.
  have hne : parts T' ≠ [] → chunks ≠ [] := by
    rintro hparts rfl
    obtain rfl : T' = [] := by simpa [assemble, eq_comm] using hT'
    exact hparts rfl
  have htext' (u : Text) (hu : Part.text t = .text u) :
      TextBefore u (parts T') ∧ (parts T' ≠ [] → u.getLast? ≠ some '\x7b') := by
    obtain rfl : t = u := by simpa using hu
    exact ⟨⟨htext, hfrom.beginsWithTag hhead⟩, fun hparts => hlast (hne hparts)⟩
  refine ⟨canonical_cons.mpr ⟨htext', by simp [Segment.toPart], by simp [Segment.toPart],
    hcanonical⟩, fun u hu => ?_⟩
  simpa [parts, Segment.toPart] using hu

/-- A text chunk `t` inside a section. A chunk has to follow it, since the section is closed later.
-/
lemma sectionReads_text {t : Text} {chunks : List Chunk} (h : Spaced (.text t :: chunks))
    (ih : SectionReads chunks) : SectionReads (.text t :: chunks) := by
  intro gathered T hT
  obtain ⟨htext, hlast, hhead, -⟩ := h
  rw [assemble] at hT
  obtain ⟨body, T', rfl, hsection, hfrom, hcanonical⟩ := ih _ T hT
  have hne : chunks ≠ [] := by
    rintro rfl
    simp [assemble] at hT
  have htext' (u : Text) (hu : Part.text t = .text u) :
      TextBefore u (body.map HandlerSegment.toPart) ∧ u.getLast? ≠ some '\x7b' := by
    obtain rfl : t = u := by simpa using hu
    exact ⟨⟨htext, hfrom.beginsWithTag hhead⟩, hlast hne⟩
  refine ⟨.text t :: body, T', by simp, canonicalSection_cons.mpr ⟨htext',
    by simp [HandlerSegment.toPart], by simp [HandlerSegment.toPart], hsection⟩, fun u hu => ?_,
    hcanonical⟩
  simpa [HandlerSegment.toPart] using hu

/-- A tag of the given `name` outside of a section opens one or is a field. -/
lemma fileReads_tag {n : Nat} {name : Text} {chunks : List Chunk} (hfile : FileReads chunks)
    (hsection : SectionReads chunks) : FileReads (.tag n name :: chunks) := by
  intro T hT
  rw [assemble] at hT
  split at hT
  · obtain ⟨body, T', rfl, hbody, -, hcanonical⟩ := hsection _ T hT
    refine ⟨canonical_cons.mpr ⟨by simp [Segment.toPart], by simp [Segment.toPart], ?_, hcanonical⟩,
      by simp [TextsFrom, parts, Segment.toPart]⟩
    intro body' hbody'
    obtain rfl : body.map HandlerSegment.toPart = body' := by simpa [Segment.toPart] using hbody'
    exact hbody
  · split at hT
    · simp at hT
    · split at hT
      · simp at hT
      · next f _ =>
        obtain ⟨T', hT', rfl⟩ := exists_of_map_eq_ok hT
        obtain ⟨hcanonical, -⟩ := hfile T' hT'
        refine ⟨canonical_cons.mpr ⟨by simp [Segment.toPart], ?_, by simp [Segment.toPart],
          hcanonical⟩, by simp [TextsFrom, parts, Segment.toPart]⟩
        intro g hg
        obtain rfl : f.toField = g := by simpa [Segment.toPart] using hg
        exact f.standsInFile_toField

/-- A tag of the given `name` inside a section closes it or is a field. -/
lemma sectionReads_tag {n : Nat} {name : Text} {chunks : List Chunk} (hfile : FileReads chunks)
    (hsection : SectionReads chunks) : SectionReads (.tag n name :: chunks) := by
  intro gathered T hT
  rw [assemble] at hT
  split at hT
  · simp at hT
  · split at hT
    · obtain ⟨T', hT', rfl⟩ := exists_of_map_eq_ok hT
      obtain ⟨hcanonical, -⟩ := hfile T' hT'
      exact ⟨[], T', by simp, canonicalSection_nil, by simp [TextsFrom], hcanonical⟩
    · split at hT
      · simp at hT
      · next f _ =>
        obtain ⟨body, T', rfl, hbody, -, hcanonical⟩ := hsection _ T hT
        refine ⟨.field f :: body, T', by simp, canonicalSection_cons.mpr
          ⟨by simp [HandlerSegment.toPart], ?_, by simp [HandlerSegment.toPart], hbody⟩,
          by simp [TextsFrom, HandlerSegment.toPart], hcanonical⟩
        intro g hg
        obtain rfl : f.toField = g := by simpa [HandlerSegment.toPart] using hg
        exact f.standsInSection_toField

/-- Spaced `chunks` are turned into canonical parts, outside of sections and inside them. The
induction is on the chunks and goes through both at once, since a tag leads from one to the other.
-/
lemma fileReads_and_sectionReads {chunks : List Chunk} (h : Spaced chunks) :
    FileReads chunks ∧ SectionReads chunks := by
  induction chunks with
  | nil =>
    refine ⟨fun T hT => ?_, fun gathered T hT => by simp [assemble] at hT⟩
    obtain rfl : T = [] := by simpa [assemble, eq_comm] using hT
    exact ⟨canonical_nil, by simp [TextsFrom, parts]⟩
  | cons c chunks ih =>
    cases c with
    | text t =>
      obtain ⟨hfile, hsection⟩ := ih h.2.2.2
      exact ⟨fileReads_text h hfile, sectionReads_text h hsection⟩
    | tag n name =>
      obtain ⟨hfile, hsection⟩ := ih h
      exact ⟨fileReads_tag hfile hsection, sectionReads_tag hfile hsection⟩
    | unclosed n =>
      exact ⟨fun T hT => by simp [assemble] at hT, fun _ T hT => by simp [assemble] at hT⟩

/-- The parts of a template `T` that has been read are `Canonical`. -/
lemma canonical_of_parse {t : Text} {T : Template} (h : parse t = .ok T) : Canonical (parts T) :=
  ((fileReads_and_sectionReads (spaced_chunksFrom 0 t)).1 T h).1

/-- Reading accepts the text of every canonical list of parts and gives back the list, and whatever
it accepts, it turns into a canonical list. What has been read can be written down and read again,
and can be filled without coming upon a field that has no value. -/
theorem readParts_exact :
    (∀ ps, Canonical ps → readParts (printParts ps) = .ok ps) ∧
      ∀ t T, parse t = .ok T →
        Canonical (parts T) ∧ parse (printParts (parts T)) = .ok T ∧
          ∀ ctx, partsWrites? ctx none (parts T) = some (writes ctx T) := by
  refine ⟨fun ps h => readParts_printParts h, fun t T h => ?_⟩
  have hcanonical := canonical_of_parse h
  exact ⟨hcanonical, assemble_printParts T hcanonical 0, fun ctx => partsWrites?_parts ctx T⟩

/-- A text with single braces next to double ones, with white space in a tag, and with two line
breaks after the tag that opens its section. -/
def awkwardText : Text :=
  lit ("\x7b \x7b\x7b package\t\x7d\x7d\x7d\x7b\x7b#handlers\x7d\x7d\n\n" ++
    "\x7b\x7bname\x7d\x7d-\x7b\x7b/handlers \x7d\x7d\x7b")

/-- The template that `awkwardText` is. -/
def awkwardTemplate : Template :=
  [.text (lit "\x7b "), .field .package, .text (lit "\x7d"),
    .handlers [.text (lit "\n"), .field .name, .text (lit "-")], .text (lit "\x7b")]

/-- The text `awkwardText` is read, and its parts are canonical and read back. -/
theorem readParts_awkwardText :
    parse awkwardText = .ok awkwardTemplate ∧ Canonical (parts awkwardTemplate) ∧
      parse (printParts (parts awkwardTemplate)) = .ok awkwardTemplate ∧
      readParts (printParts (parts awkwardTemplate)) = .ok (parts awkwardTemplate) := by
  have hparse : parse awkwardText = .ok awkwardTemplate := by decide +kernel
  obtain ⟨hcanonical, hagain, -⟩ := readParts_exact.2 _ _ hparse
  exact ⟨hparse, hcanonical, hagain, readParts_exact.1 _ hcanonical⟩

end RouteStubs.Template
