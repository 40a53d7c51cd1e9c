import RouteStubs.Proofs.Template.StubLines
import RouteStubs.Proofs.Text.Spaces
import RouteStubs.Run.Options

/-!
# Accessors as texts and as values

An accessor is read from a text and written into the header of every stub. Both directions agree:
the white space around a text apart, the text is the written form of the accessor, and the written
form is read as the same accessor. It rests on names, which have no dot in them and no white space
at their ends.

A command line chooses an accessor once at most. So the accessor that a stub names, given to the
option for it, is chosen by every command line that makes sense then.
-/

namespace RouteStubs

namespace Accessor

open Text

/-! ## Names -/

/-- Both parts of the accessor `a` are names. -/
structure Proper (a : Accessor) : Prop where
  module : isName a.module = true
  function : isName a.function = true

/-- The characters of a name `n` are letters, numerals and underscores. -/
lemma of_mem_name {n : Text} (h : isName n = true) {c : Char} (hc : c ∈ n) :
    isLetter c = true ∨ isNumeral c = true ∨ c = '_' := by
  cases n with
  | nil => exact absurd hc List.not_mem_nil
  | cons d n =>
    simp only [isName, Bool.and_eq_true, Bool.or_eq_true, beq_iff_eq, List.all_eq_true] at h
    rcases List.mem_cons.mp hc with rfl | hc
    · exact h.1.imp_right .inr
    · exact or_assoc.mp (h.2 c hc)

/-- A character `c` that is none of these is not in a name `n`. -/
lemma not_mem_name {n : Text} (h : isName n = true) {c : Char} (hletter : isLetter c = false)
    (hnumeral : isNumeral c = false) (hmark : c ≠ '_') : c ∉ n := by
  intro hc
  rcases of_mem_name h hc with hc | hc | hc
  · simp [hletter] at hc
  · simp [hnumeral] at hc
  · exact hmark hc

/-- No dot is in a name `n`. -/
lemma dot_not_mem_name {n : Text} (h : isName n = true) : '.' ∉ n :=
  not_mem_name h (by decide) (by decide) (by decide)

/-- No white space is in a name `n`. -/
lemma isSpace_of_mem_name {n : Text} (h : isName n = true) {c : Char} (hc : c ∈ n) :
    isSpace c = false := by
  rcases of_mem_name h hc with hletter | hnumeral | rfl
  · exact isSpace_of_isLetter hletter
  · exact isSpace_of_isNumeral hnumeral
  · exact isSpace_of_lt (by decide) (by decide)

/-! ## Reading and writing -/

/-- What `splitAtDot?` splits at the first dot is put together with a dot again. -/
lemma eq_of_splitAtDot? {t m f : Text} (h : splitAtDot? t = some (m, f)) : t = m ++ '.' :: f := by
  unfold splitAtDot? at h
  split at h
  · next c after hbehind =>
    have hc : c = '.' := by
      have hnot := List.head?_dropWhile_not (· != '.') t
      rw [hbehind] at hnot
      simpa using hnot
    obtain ⟨rfl, rfl⟩ : t.takeWhile (· != '.') = m ∧ after = f := by simpa using h
    have hwhole := List.takeWhile_append_dropWhile (p := (· != '.')) (l := t)
    rw [hbehind, hc] at hwhole
    exact hwhole.symm
  · contradiction

/-- Texts `m` and `f` with a dot between them are split there when there is none in `m`. -/
lemma splitAtDot?_append {m : Text} (h : '.' ∉ m) (f : Text) :
    splitAtDot? (m ++ '.' :: f) = some (m, f) := by
  have hm : ∀ c ∈ m, (c != '.') = true := by
    intro c hc
    simpa using ne_of_mem_of_not_mem hc h
  unfold splitAtDot?
  rw [List.dropWhile_append_of_pos hm, List.takeWhile_append_of_pos hm]
  simp

/-- The written form of a proper accessor has no white space at its ends. -/
lemma Proper.trimmed_display {a : Accessor} (h : a.Proper) : Trimmed a.display where
  head := by
    intro c hc
    unfold display at hc
    cases hmodule : a.module with
    | nil => exact absurd h.module (by simp [hmodule, isName])
    | cons d m =>
      obtain rfl : d = c := by simpa [hmodule] using hc
      exact isSpace_of_mem_name h.module (by simp [hmodule])
  last := by
    intro c hc
    unfold display at hc
    have hne : a.function ≠ [] := by
      intro hnil
      exact absurd h.function (by simp [hnil, isName])
    have hlast : c ∈ a.function.getLast? := by
      rwa [List.getLast?_append_of_ne_nil _ (List.cons_ne_nil _ _),
        List.getLast?_cons_of_ne_nil hne] at hc
    exact isSpace_of_mem_name h.function (List.mem_of_mem_getLast? hlast)

/-- A text `t` is read as the accessor `a` exactly when it is its written form between white space,
and `a` is proper. -/
lemma parse_eq_ok_iff {t : Text} {a : Accessor} :
    parse t = .ok a ↔ trim t = a.display ∧ a.Proper := by
  unfold parse
  constructor
  · intro h
    split at h
    · contradiction
    · next m f hsplit =>
      split_ifs at h with hmodule hfunction
      cases h
      simp only [Bool.not_eq_true', Bool.not_eq_false] at hmodule hfunction
      exact ⟨eq_of_splitAtDot? hsplit, hmodule, hfunction⟩
  · rintro ⟨htext, hproper⟩
    rw [htext, display, splitAtDot?_append (dot_not_mem_name hproper.module)]
    simp [hproper.module, hproper.function]

/-- The written form of a proper accessor `a` is read as `a`. -/
lemma Proper.parse_display {a : Accessor} (h : a.Proper) : parse a.display = .ok a :=
  parse_eq_ok_iff.mpr ⟨trim_of_trimmed h.trimmed_display, h⟩

/-- Proper accessors `a` and `b` with one written form are the same. -/
lemma Proper.display_inj {a b : Accessor} (ha : a.Proper) (hb : b.Proper)
    (h : a.display = b.display) : a = b := by
  have hparse := ha.parse_display
  rw [h, hb.parse_display] at hparse
  exact (Except.ok.inj hparse).symm

/-- The written form of a proper accessor does not begin like an option. -/
lemma Proper.exists_display_eq_cons {a : Accessor} (h : a.Proper) :
    ∃ c t, a.display = c :: t ∧ c ≠ '-' := by
  unfold display
  cases hmodule : a.module with
  | nil => exact absurd h.module (by simp [hmodule, isName])
  | cons c m =>
    have hhyphen : '-' ∉ a.module := not_mem_name h.module (by decide) (by decide) (by decide)
    refine ⟨c, m ++ '.' :: a.function, rfl, ?_⟩
    rintro rfl
    exact hhyphen (by simp [hmodule])

lemma proper_standard : standard.Proper := ⟨by decide +kernel, by decide +kernel⟩

end Accessor

/-! ## The accessor of a command line -/

namespace Options

/-- How the accessor that has been chosen can change from `old` to `new`: not at all, or once to one
that has been read. -/
def Chooses (old new : Option Accessor) : Prop :=
  new = old ∨ old = none ∧ ∃ a : Accessor, a.Proper ∧ new = some a

lemma Chooses.refl (old : Option Accessor) : Chooses old old := .inl rfl

lemma Chooses.trans {a b c : Option Accessor} (h : Chooses a b) (h' : Chooses b c) :
    Chooses a c := by
  rcases h with rfl | ⟨rfl, x, hx, rfl⟩
  · exact h'
  · rcases h' with rfl | ⟨hnone, -⟩
    · exact .inr ⟨rfl, x, hx, rfl⟩
    · contradiction

/-- A `bind` succeeds exactly if both steps do, one after the other. -/
lemma bind_eq_ok {α β : Type} {x : Except Stop α} {f : α → Except Stop β} {b : β} :
    (x >>= f) = .ok b ↔ ∃ a, x = .ok a ∧ f a = .ok b := by
  cases x with
  | error stop => simp [bind, Except.bind]
  | ok a => simp [bind, Except.bind]

namespace Draft

/-- A value that may be given only `once` is new. -/
lemma once_eq_ok {α : Type} {old : Option α} {s : Setting} {new : Except Fault α} {a : α} :
    once old s new = .ok a ↔ old = none ∧ new = .ok a := by
  cases old with
  | some b => simp [once]
  | none => cases new with
    | error fault => simp [once]
    | ok b => simp [once]

lemma chooses_set {d d' : Draft} {s : Setting} {value : Text} (h : d.set s value = .ok d') :
    Chooses d.accessor d'.accessor := by
  cases s with
  | accessor =>
    obtain ⟨a, honce, hd⟩ := bind_eq_ok.mp h
    obtain ⟨hnone, hparse⟩ := once_eq_ok.mp honce
    cases hd
    cases hread : Accessor.parse value with
    | error fault =>
      rw [hread] at hparse
      contradiction
    | ok b =>
      rw [hread] at hparse
      cases hparse
      exact .inr ⟨hnone, a, (Accessor.parse_eq_ok_iff.mp hread).2, rfl⟩
  | exclude =>
    cases h
    exact .refl _
  | outDir | maxFileSize | colour =>
    obtain ⟨v, -, hd⟩ := bind_eq_ok.mp h
    cases hd
    exact .refl _

lemma chooses_raise {d d' : Draft} {f : Flag} (h : d.raise f = .ok d') :
    Chooses d.accessor d'.accessor := by
  cases f with
  | help | version => contradiction
  | verbose =>
    cases h
    exact .refl _
  | dryRun | json | quiet =>
    simp only [raise] at h
    split_ifs at h
    cases h
    exact .refl _

/-- What is read of a command line leads from the draft `d` to `d'`: what was `pending` is taken up
first if it is an option with its value, and what follows goes on from there. -/
def Leads (d : Draft) (pending : Pending) (d' : Draft) : Prop :=
  match pending with
  | .setting s (some value) => ∃ d₁, d.set s value = .ok d₁ ∧ Chooses d₁.accessor d'.accessor
  | _ => Chooses d.accessor d'.accessor

lemma Leads.chooses {d d' : Draft} {pending : Pending} (h : d.Leads pending d') :
    Chooses d.accessor d'.accessor := by
  unfold Leads at h
  split at h
  · obtain ⟨d₁, hset, h⟩ := h
    exact (chooses_set hset).trans h
  · exact h

lemma Leads.trans {d d' d'' : Draft} {pending : Pending} (h : d.Leads pending d')
    (h' : Chooses d'.accessor d''.accessor) : d.Leads pending d'' := by
  unfold Leads at h ⊢
  split at h
  · obtain ⟨d₁, hset, h⟩ := h
    exact ⟨d₁, hset, h.trans h'⟩
  · exact h.trans h'

lemma leads_settle {d d' : Draft} {pending : Pending} (h : d.settle pending = .ok d') :
    d.Leads pending d' := by
  unfold settle at h
  split at h
  · cases h
    exact .refl _
  · contradiction
  · exact ⟨d', h, .refl _⟩
  · split_ifs at h
    cases h
    exact .refl _

lemma leads_readWord {d : Draft} {pending : Pending} {word : Text} {value? : Option Text}
    {next : Draft × Pending} (h : d.readWord pending word value? = .ok next) :
    d.Leads pending next.1 := by
  unfold readWord at h
  split at h
  · contradiction
  · split at h
    · contradiction
    · obtain ⟨d', hsettle, h⟩ := bind_eq_ok.mp h
      obtain ⟨d'', hraise, h⟩ := bind_eq_ok.mp h
      cases h
      exact (leads_settle hsettle).trans (chooses_raise hraise)
  · obtain ⟨d', hsettle, h⟩ := bind_eq_ok.mp h
    split at h
    · obtain ⟨d'', hset, h⟩ := bind_eq_ok.mp h
      cases h
      exact (leads_settle hsettle).trans (chooses_set hset)
    · cases h
      exact leads_settle hsettle

lemma leads_readLetters {d : Draft} {pending : Pending} {letters : Text} (hne : letters ≠ [])
    {next : Draft × Pending} (h : d.readLetters pending letters = .ok next) :
    d.Leads pending next.1 := by
  fun_induction readLetters d pending letters with
  | case1 => contradiction
  | case2 => contradiction
  | case3 d pending c rest f hchoice ih =>
    obtain ⟨d', hsettle, h⟩ := bind_eq_ok.mp h
    obtain ⟨d'', hraise, h⟩ := bind_eq_ok.mp h
    have hd'' := (leads_settle hsettle).trans (chooses_raise hraise)
    cases rest with
    | nil =>
      cases h
      exact hd''
    | cons e rest => exact hd''.trans (ih d'' (List.cons_ne_nil e rest) h).chooses
  | case4 d pending c rest s hchoice =>
    obtain ⟨d', hsettle, h⟩ := bind_eq_ok.mp h
    split at h
    · cases h
      exact leads_settle hsettle
    · obtain ⟨d'', hset, h⟩ := bind_eq_ok.mp h
      cases h
      exact (leads_settle hsettle).trans (chooses_set hset)

lemma leads_readPath {d : Draft} {pending : Pending} {path : Text} {next : Draft × Pending}
    (h : d.readPath pending path = .ok next) : d.Leads pending next.1 := by
  unfold readPath at h
  split at h
  · cases h
    exact .refl _
  · obtain ⟨d', hsettle, h⟩ := bind_eq_ok.mp h
    cases h
    exact leads_settle hsettle

/-- To `read` the whole rest of a command line leads from `d` to `d'`. The induction follows the
arguments. -/
lemma leads_read {d d' : Draft} {pending : Pending} {onlyPaths : Bool} {arguments : List Text}
    (h : d.read pending onlyPaths arguments = .ok d') : d.Leads pending d' := by
  fun_induction read d pending onlyPaths arguments
  case case1 => exact leads_settle h
  case case2 ih | case7 ih =>
    obtain ⟨next, hpath, h⟩ := bind_eq_ok.mp h
    exact (leads_readPath hpath).trans (ih next.1 next.2 h).chooses
  case case3 ih => exact ih h
  case case4 ih =>
    obtain ⟨next, hword, h⟩ := bind_eq_ok.mp h
    exact (leads_readWord hword).trans (ih next.1 next.2 h).chooses
  case case5 ih =>
    obtain ⟨next, hletters, h⟩ := bind_eq_ok.mp h
    exact (leads_readLetters (List.cons_ne_nil _ _) hletters).trans (ih next.1 next.2 h).chooses
  -- the option that was looked at has its value now, which is taken up next
  case case6 ih => exact (ih h).chooses

/-! ### The option for the accessor -/

/-- The word `accessor` is that of the option. -/
lemma ofWord?_accessor : Choice.ofWord? (lit "accessor") = some (.setting .accessor) := by
  decide +kernel

lemma readWord_accessor :
    empty.readWord .nothing (lit "accessor") none = .ok (empty, .setting .accessor none) := by
  simp only [readWord, ofWord?_accessor]
  rfl

/-- The option `--accessor` and an argument that is no option. -/
lemma read_accessor {c : Char} (hc : c ≠ '-') (value : Text) (more : List Text) :
    empty.read .nothing false (lit "--accessor" :: (c :: value) :: more) =
      empty.read (.setting .accessor (some (c :: value))) false more := by
  have hword : lit "--accessor" = '-' :: '-' :: lit "accessor" := by decide +kernel
  have htake : (lit "accessor").takeWhile (· != '=') = lit "accessor" := by decide +kernel
  have hdrop : (lit "accessor").dropWhile (· != '=') = [] := by decide +kernel
  have hne : lit "accessor" ≠ [] := by decide +kernel
  have hoption : empty.read .nothing false (lit "--accessor" :: (c :: value) :: more) =
      empty.read (.setting .accessor none) false ((c :: value) :: more) := by
    rw [hword, read]
    · rw [htake, hdrop]
      simp only [readWord_accessor]
      rfl
    all_goals simp [hne]
  rw [hoption, read]
  all_goals simp [hc]

/-- The option `--accessor=` with its value behind the equals sign. -/
lemma read_accessor_eq (value : Text) (more : List Text) :
    empty.read .nothing false ((lit "--accessor=" ++ value) :: more) =
      empty.set .accessor value >>= fun d => d.read .nothing false more := by
  have hword : lit "--accessor=" = '-' :: '-' :: (lit "accessor" ++ ['=']) := by decide +kernel
  have hplain : ((lit "accessor").all fun c => c != '=') = true := by decide +kernel
  have htake : (lit "accessor" ++ '=' :: value).takeWhile (· != '=') = lit "accessor" := by
    rw [List.takeWhile_append_of_pos (List.all_eq_true.mp hplain)]
    simp
  have hdrop : (lit "accessor" ++ '=' :: value).dropWhile (· != '=') = '=' :: value := by
    rw [List.dropWhile_append_of_pos (List.all_eq_true.mp hplain)]
    simp
  have hstep : empty.read .nothing false ((lit "--accessor=" ++ value) :: more) =
      empty.readWord .nothing (lit "accessor") (some value) >>= fun next =>
        next.1.read next.2 false more := by
    rw [hword, List.cons_append, List.cons_append, ← List.append_cons, read]
    · rw [htake, hdrop]
      rfl
    all_goals simp
  rw [hstep]
  cases hset : empty.set .accessor value with
  | error stop => simp [readWord, ofWord?_accessor, settle, hset, bind, Except.bind]
  | ok d => simp [readWord, ofWord?_accessor, settle, hset, bind, Except.bind, pure, Except.pure]

/-- Behind `--`, all arguments are gathered as paths. -/
lemma read_paths (d : Draft) (ps paths : List Text) :
    d.read (.paths ps) true paths = d.settle (.paths (ps ++ paths)) := by
  induction paths generalizing ps with
  | nil => rw [read, List.append_nil]
  | cons path paths ih =>
    have hstep : d.read (.paths ps) true (path :: paths) =
        d.read (.paths (ps ++ [path])) true paths := by
      rw [read.eq_def]
      rfl
    rw [hstep, ih, ← List.append_cons]

end Draft

/-- The accessor of a command line is the one that the draft `d` has chosen, or else the standard
one. -/
lemma accessor_of_parse {arguments : List Text} {options : Options}
    (h : parse arguments = .ok options) :
    ∃ d : Draft, Draft.empty.read .nothing false arguments = .ok d ∧
      options.accessor = d.accessor.getD .standard := by
  obtain ⟨d, hread, h⟩ := bind_eq_ok.mp h
  split_ifs at h
  cases h
  exact ⟨d, hread, rfl⟩

/-- The accessor of a command line is proper. -/
lemma proper_accessor {arguments : List Text} {options : Options}
    (h : parse arguments = .ok options) : options.accessor.Proper := by
  obtain ⟨d, hread, haccessor⟩ := accessor_of_parse h
  rcases (Draft.leads_read hread).chooses with hsame | ⟨-, a, hproper, hnew⟩
  · rw [haccessor, hsame]
    exact Accessor.proper_standard
  · rw [haccessor, hnew]
    exact hproper

/-- An accessor `a` that is chosen stays chosen. -/
lemma Chooses.eq_of_some {a : Accessor} {new : Option Accessor} (h : Chooses (some a) new) :
    new = some a := by
  rcases h with rfl | ⟨hnone, -⟩
  · rfl
  · contradiction

section Given

variable {a : Accessor} (ha : a.Proper) {more : List Text} {options : Options}

include ha

lemma set_display : Draft.empty.set .accessor a.display =
    .ok { Draft.empty with accessor := some a } := by
  simp only [Draft.set, ha.parse_display]
  rfl

/-- An accessor `a` that is given to its option is chosen, whatever arguments come behind it. -/
lemma accessor_of_given (h : parse (lit "--accessor" :: a.display :: more) = .ok options) :
    options.accessor = a := by
  obtain ⟨d, hread, haccessor⟩ := accessor_of_parse h
  obtain ⟨c, t, hdisplay, hc⟩ := ha.exists_display_eq_cons
  rw [hdisplay, Draft.read_accessor hc, ← hdisplay] at hread
  obtain ⟨d₁, hset, hchooses⟩ := Draft.leads_read hread
  rw [set_display ha] at hset
  cases hset
  rw [haccessor, hchooses.eq_of_some]
  rfl

/-- An accessor `a` is also chosen behind an equals sign. -/
lemma accessor_of_given_eq (h : parse ((lit "--accessor=" ++ a.display) :: more) = .ok options) :
    options.accessor = a := by
  obtain ⟨d, hread, haccessor⟩ := accessor_of_parse h
  rw [Draft.read_accessor_eq, set_display ha] at hread
  rw [haccessor, (Draft.leads_read hread).chooses.eq_of_some]
  rfl

/-- With `paths` behind `--`, the command line can be read. -/
lemma exists_parse_given {paths : List Text} (hne : paths ≠ []) (hpaths : ∀ p ∈ paths, p ≠ []) :
    ∃ options : Options,
      parse (lit "--accessor" :: a.display :: lit "--" :: paths) = .ok options ∧
        options.paths = paths := by
  obtain ⟨c, t, hdisplay, hc⟩ := ha.exists_display_eq_cons
  obtain ⟨path, paths, rfl⟩ := List.exists_cons_of_ne_nil hne
  have hread : Draft.empty.read .nothing false
      (lit "--accessor" :: a.display :: lit "--" :: path :: paths) =
        .ok { Draft.empty with accessor := some a, paths := path :: paths } := by
    have hhyphens : lit "--" = ['-', '-'] := by decide +kernel
    have hany : (path :: paths).any List.isEmpty = false := by
      simpa using hpaths
    have hfirst : Draft.empty.read (.setting .accessor (some a.display)) true (path :: paths) =
        Draft.read { Draft.empty with accessor := some a } (.paths [path]) true paths := by
      rw [Draft.read.eq_def]
      simp only [if_true, Draft.readPath, Draft.settle, set_display ha]
      rfl
    rw [hdisplay, Draft.read_accessor hc, ← hdisplay, hhyphens, Draft.read, hfirst,
      Draft.read_paths]
    simp only [Draft.settle, List.singleton_append, hany]
    rfl
  simp only [parse, hread]
  exact ⟨_, rfl, rfl⟩

end Given

end Options

/-! ## The accessor of a stub -/

namespace Template

/-- What the line that names the accessor begins with. -/
def accessorMark : Text := lit "// Route variables are read through "

/-- The line of a stub that names the accessor `a`. -/
def accessorLine (a : Accessor) : Text :=
  accessorMark ++ a.display ++ lit " and injected with mux.SetURLVars."

/-- A stub has the line `accessorLine a` of its accessor. -/
lemma accessorLine_mem {a : Accessor} (ha : a.Proper) (found : Classification) (source : Text) :
    accessorLine a ∈ Text.lines (Generator.renderStub found source a) := by
  have hnewline : '\n' ∉ accessorLine a := by
    have hmark : '\n' ∉ accessorMark := by decide +kernel
    have hend : '\n' ∉ lit " and injected with mux.SetURLVars." := by decide +kernel
    have hdisplay := Accessor.newline_not_mem_display ha.parse_display
    simp only [accessorLine, List.mem_append, not_or]
    exact ⟨⟨hmark, hdisplay⟩, hend⟩
  have hhead : accessorLine a ∈ headLines (.ofClassification found source a) := by
    have hpreamble : accessorLine a ∈ preamble (.ofClassification found source a) :=
      List.mem_cons_of_mem _ List.mem_cons_self
    exact List.mem_append_left _ (List.mem_cons_of_mem _ hpreamble)
  rw [Generator.renderStub, render_stub, Text.lines_unlines]
  refine List.mem_append_left _ (List.mem_flatMap.mpr ⟨_, List.mem_append_left _ hhead, ?_⟩)
  rw [Text.lines_of_not_mem hnewline]
  exact List.mem_singleton_self _

/-- A stub has no other line that begins with `accessorMark`. -/
lemma filter_accessorMark {found : Classification} (hnamed : Named found) {source : Text}
    (hsource : '\n' ∉ source) {a : Accessor} (ha : a.Proper) :
    (Text.lines (Generator.renderStub found source a)).filter (accessorMark.isPrefixOf ·) =
      [accessorLine a] := by
  have hhead (ctx : Context) : (headLines ctx).filter (accessorMark.isPrefixOf ·) =
      [accessorMark ++ ctx.accessor ++ lit " and injected with mux.SetURLVars."] := by
    unfold accessorMark headLines originLine preamble foundLine declarations variablesMark lit
    repeat rw [String.toList_ofList]
    simp
  have htest (h : Handler) : (testLines h).filter (accessorMark.isPrefixOf ·) = [] := by
    unfold accessorMark testLines testLine testMark testBody loopLine loopMark lit
    repeat rw [String.toList_ofList]
    simp
  have htests : (found.handlers.flatMap testLines).filter (accessorMark.isPrefixOf ·) = [] := by
    rw [List.filter_flatMap]
    exact List.flatMap_eq_nil_iff.mpr fun h _ => htest h
  rw [lines_renderStub hnamed hsource (Accessor.newline_not_mem_display ha.parse_display),
    List.filter_append, List.filter_append, hhead, htests]
  rfl

end Template

namespace Accessor

/-- A text is read as an accessor exactly when, without the white space around it, it is two names
with a dot between them, and these are determined by the text. The accessor is written as this text
and read back from it, so that two texts stand for one accessor exactly when they differ in the
white space around them. The accessor of a command line is the one that the stubs name, in one line
where no line feed is in the path of the source; and given to its option, with any arguments behind
it, it is the accessor of the new command line. -/
theorem text_and_value_determine_each_other (t : Text) :
    (∀ a : Accessor, parse t = .ok a ↔ Text.trim t = a.module ++ '.' :: a.function ∧
      isName a.module = true ∧ isName a.function = true) ∧
    (∀ a b : Accessor, a.Proper → b.Proper → Text.trim t = a.module ++ '.' :: a.function →
      Text.trim t = b.module ++ '.' :: b.function → a = b) ∧
    (∀ a, parse t = .ok a → a.display = Text.trim t ∧ parse a.display = .ok a) ∧
    (∀ (u : Text) (a b : Accessor), parse t = .ok a → parse u = .ok b →
      (a = b ↔ Text.trim t = Text.trim u)) ∧
    ∀ (arguments : List Text) (options : Options), Options.parse arguments = .ok options →
      let a := options.accessor
      (∀ (found : Classification) (source : Text),
        Template.accessorLine a ∈ Text.lines (Generator.renderStub found source a) ∧
          (Template.Named found → '\n' ∉ source →
            (Text.lines (Generator.renderStub found source a)).filter
              (Template.accessorMark.isPrefixOf ·) = [Template.accessorLine a])) ∧
      (∀ (more : List Text) (options' : Options),
        Options.parse (lit "--accessor" :: a.display :: more) = .ok options' ∨
            Options.parse ((lit "--accessor=" ++ a.display) :: more) = .ok options' →
          options'.accessor = a) ∧
      ∀ paths : List Text, paths ≠ [] → (∀ p ∈ paths, p ≠ []) → ∃ options' : Options,
        Options.parse (lit "--accessor" :: a.display :: lit "--" :: paths) = .ok options' ∧
          options'.accessor = a ∧ options'.paths = paths := by
  refine ⟨?_, ?_, ?_, ?_, ?_⟩
  · intro a
    rw [parse_eq_ok_iff]
    exact ⟨fun h => ⟨h.1, h.2.module, h.2.function⟩, fun h => ⟨h.1, h.2.1, h.2.2⟩⟩
  · intro a b ha hb hta htb
    exact ha.display_inj hb (hta.symm.trans htb)
  · intro a h
    obtain ⟨htext, ha⟩ := parse_eq_ok_iff.mp h
    exact ⟨htext.symm, ha.parse_display⟩
  · intro u a b ha hb
    obtain ⟨hta, hpa⟩ := parse_eq_ok_iff.mp ha
    obtain ⟨htb, hpb⟩ := parse_eq_ok_iff.mp hb
    rw [hta, htb]
    exact ⟨fun h => h ▸ rfl, hpa.display_inj hpb⟩
  · intro arguments options h
    have ha := Options.proper_accessor h
    refine ⟨fun found source => ⟨Template.accessorLine_mem ha found source, ?_⟩, ?_, ?_⟩
    · intro hnamed hsource
      exact Template.filter_accessorMark hnamed hsource ha
    · rintro more options' (hgiven | hgiven)
      · exact Options.accessor_of_given ha hgiven
      · exact Options.accessor_of_given_eq ha hgiven
    · intro paths hne hpaths
      obtain ⟨options', hgiven, hsame⟩ := Options.exists_parse_given ha hne hpaths
      exact ⟨options', hgiven, Options.accessor_of_given ha hgiven, hsame⟩

/-- An accessor between white space, the stub of two handlers that names it, and the command line
that is given it. -/
theorem text_and_value_determine_each_other_store :
    let a : Accessor := ⟨lit "store", lit "Get"⟩
    parse (lit " store.Get\n") = .ok a ∧
      (Text.lines (Generator.renderStub Template.hostile (lit "x.go") a)).filter
        (Template.accessorMark.isPrefixOf ·) = [Template.accessorLine a] ∧
      ∃ options, Options.parse [lit "--accessor", lit "store.Get", lit "--", lit "x.go"] =
        .ok options ∧ options.accessor = a := by
  intro a
  have hproper : a.Proper := ⟨by decide +kernel, by decide +kernel⟩
  have hpaths : ∀ p ∈ [lit "x.go"], p ≠ [] := by decide +kernel
  obtain ⟨options, hoptions, -⟩ := Options.exists_parse_given hproper (List.cons_ne_nil _ _) hpaths
  obtain ⟨hread, -, -, -, hlines⟩ := text_and_value_determine_each_other (lit " store.Get\n")
  obtain ⟨hline, hgiven, hagain⟩ := hlines _ options hoptions
  have haccessor : options.accessor = a := Options.accessor_of_given hproper hoptions
  have hdisplay : a.display = lit "store.Get" := by decide +kernel
  rw [haccessor] at hline hgiven hagain
  refine ⟨(hread a).mpr ⟨by decide +kernel, hproper.module, hproper.function⟩, ?_, ?_⟩
  · exact (hline Template.hostile (lit "x.go")).2 ⟨by decide, by decide⟩ (by decide)
  · obtain ⟨options', hoptions', -⟩ := hagain [lit "x.go"] (List.cons_ne_nil _ _) hpaths
    refine ⟨options', ?_, hgiven _ options' (.inl hoptions')⟩
    rw [← hdisplay]
    exact hoptions'

end Accessor

end RouteStubs
