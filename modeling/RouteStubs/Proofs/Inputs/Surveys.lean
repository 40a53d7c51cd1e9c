import RouteStubs.Inputs.Collect
import RouteStubs.Proofs.Run.Turns

/-!
# Surveys

Which inputs are collected depends on a file system only through a few questions: what a path leads
to, what is listed below a directory, which paths match a pattern and which names a pattern accepts.
A `Survey` has some answer to each of them, whether or not there is a file system behind it. What is
collected from a file system is what is collected from its survey (`Inputs.result_collect`).
-/

namespace RouteStubs

namespace Inputs

variable {α β γ : Type}

/-! ## Results one after the other -/

/-- The results of `f` for several things one after the other, if there is one for each of them. -/
def concat (f : α → Except Failure (List β)) : List α → Except Failure (List β)
  | [] => .ok []
  | a :: as =>
    match f a with
    | .error failure => .error failure
    | .ok first => (concat f as).map (first ++ ·)

lemma concat_cons_eq_ok_iff {f : α → Except Failure (List β)} {a : α} {as : List α}
    {bs : List β} :
    concat f (a :: as) = .ok bs ↔
      ∃ first others, f a = .ok first ∧ concat f as = .ok others ∧ first ++ others = bs := by
  rw [concat]
  cases f a with
  | error failure => simp
  | ok first => cases concat f as <;> simp [Except.map]

/-- There are results for `as ++ as'` if there are for each of the two, and they come one after the
other. -/
lemma concat_append_eq_ok_iff {f : α → Except Failure (List β)} {as as' : List α} {bs : List β} :
    concat f (as ++ as') = .ok bs ↔
      ∃ first others, concat f as = .ok first ∧ concat f as' = .ok others ∧
        first ++ others = bs := by
  induction as generalizing bs with
  | nil => simp [concat]
  | cons a as ih =>
    rw [List.cons_append, concat_cons_eq_ok_iff]
    constructor
    · rintro ⟨first, others, hfirst, hothers, rfl⟩
      obtain ⟨second, third, hsecond, hthird, rfl⟩ := ih.mp hothers
      refine ⟨first ++ second, third, ?_, hthird, List.append_assoc _ _ _⟩
      exact concat_cons_eq_ok_iff.mpr ⟨first, second, hfirst, hsecond, rfl⟩
    · rintro ⟨front, third, hfront, hthird, rfl⟩
      obtain ⟨first, second, hfirst, hsecond, rfl⟩ := concat_cons_eq_ok_iff.mp hfront
      refine ⟨first, second ++ third, hfirst, ?_, (List.append_assoc _ _ _).symm⟩
      exact ih.mpr ⟨second, third, hsecond, hthird, rfl⟩

/-- Whatever there is among the results `bs` comes from one of the things `as`. -/
lemma mem_concat_iff {f : α → Except Failure (List β)} {as : List α} {bs : List β}
    (h : concat f as = .ok bs) {b : β} :
    b ∈ bs ↔ ∃ a ∈ as, ∃ found, f a = .ok found ∧ b ∈ found := by
  induction as generalizing bs with
  | nil =>
    obtain rfl : [] = bs := Except.ok.inj h
    simp
  | cons a as ih =>
    obtain ⟨first, others, hfirst, hothers, rfl⟩ := concat_cons_eq_ok_iff.mp h
    simp [ih hothers, hfirst]

/-- If there are results for `as` one after the other, there is one for each `a`. -/
lemma exists_eq_ok_of_concat {f : α → Except Failure (List β)} {as : List α} {bs : List β}
    (h : concat f as = .ok bs) {a : α} (ha : a ∈ as) : ∃ found, f a = .ok found := by
  obtain ⟨before, after, rfl⟩ := List.append_of_mem ha
  obtain ⟨first, others, -, hothers, rfl⟩ := concat_append_eq_ok_iff.mp h
  obtain ⟨found, rest, hfound, -, rfl⟩ := concat_cons_eq_ok_iff.mp hothers
  exact ⟨found, hfound⟩

/-- If the results of `f` are parts of those of `g`, then so are the results one after the other. -/
lemma concat_sublist {f g : α → Except Failure (List β)}
    (hparts : ∀ a bs, f a = .ok bs → ∃ cs, g a = .ok cs ∧ bs.Sublist cs) {as : List α}
    {bs : List β} (h : concat f as = .ok bs) : ∃ cs, concat g as = .ok cs ∧ bs.Sublist cs := by
  induction as generalizing bs with
  | nil =>
    obtain rfl : [] = bs := Except.ok.inj h
    exact ⟨[], rfl, List.Sublist.refl _⟩
  | cons a as ih =>
    obtain ⟨first, others, hfirst, hothers, rfl⟩ := concat_cons_eq_ok_iff.mp h
    obtain ⟨first', hfirst', hpart⟩ := hparts a first hfirst
    obtain ⟨others', hothers', hparts'⟩ := ih hothers
    refine ⟨first' ++ others', ?_, hpart.append hparts'⟩
    exact concat_cons_eq_ok_iff.mpr ⟨first', others', hfirst', hothers', rfl⟩

/-- If the results of `f` and `g` look alike, then so do the results one after the other. -/
lemma map_concat_congr {f g : α → Except Failure (List β)} {look : β → γ}
    (h : ∀ a, (f a).map (List.map look) = (g a).map (List.map look)) (as : List α) :
    (concat f as).map (List.map look) = (concat g as).map (List.map look) := by
  induction as with
  | nil => rfl
  | cons a as ih =>
    have hfirst := h a
    rw [concat, concat]
    cases hf : f a <;> cases hg : g a <;> rw [hf, hg] at hfirst <;>
      simp only [Except.map, Except.error.injEq, Except.ok.injEq, reduceCtorEq] at hfirst ⊢
    · exact hfirst
    · cases hfs : concat f as <;> cases hgs : concat g as <;> rw [hfs, hgs] at ih <;>
        simp_all [Except.map]

end Inputs

/-- Answers to all questions on which the collected inputs depend. -/
structure Survey where
  isDirectory : Text → Bool
  isFile : Text → Bool
  present : Text → Bool
  /-- What is listed below a directory. -/
  entries : Text → List Text
  /-- The paths that match a pattern. -/
  expansion : Text → Except Wildcard.Fault (List Text)
  /-- The names that a pattern accepts. -/
  acceptance : Text → Except Wildcard.Fault (Text → Bool)

namespace Survey

variable (s : Survey)

/-- The names that a `pattern` excludes. -/
def exclusion (pattern : Text) : Except Failure (List (Text → Bool)) :=
  match s.acceptance pattern with
  | .error fault => .error (.input (.badExclude pattern fault))
  | .ok accepts => .ok [accepts]

/-- The name of what `path` leads to is not excluded. -/
def keeps (exclusions : List (Text → Bool)) (path : Text) : Bool :=
  !exclusions.any fun accepts => accepts ((Path.fileName? path).getD [])

/-- A file that a search is after. -/
def isWanted (path : Text) : Bool :=
  s.isFile path && Path.isSource path && !Path.isTest path

/-- The source files that the directory `root` stands for. -/
def ofDirectory (exclusions : List (Text → Bool)) (root : Text) : List Text :=
  Path.sort (((s.entries root).filter s.isWanted).filter (keeps exclusions))

/-- The files that a matching `path` stands for. -/
def ofMatch (exclusions : List (Text → Bool)) (path : Text) : List Text :=
  if s.isDirectory path then s.ofDirectory exclusions path
  else if keeps exclusions path then [path] else []

/-- The files that the matches `paths` of a `pattern` stand for. There has to be at least one. -/
def ofMatches (exclusions : List (Text → Bool)) (pattern : Text) (paths : List Text) :
    Except Failure (List Text) :=
  let files := paths.flatMap (s.ofMatch exclusions)
  if files.isEmpty then .error (.input (.noMatch pattern)) else .ok (Path.sort files)

/-- The files that a `pattern` stands for. -/
def ofPattern (exclusions : List (Text → Bool)) (pattern : Text) : Except Failure (List Text) :=
  match s.expansion pattern with
  | .error fault => .error (.input (.badPattern pattern fault))
  | .ok paths => s.ofMatches exclusions pattern paths

/-- The files that an argument stands for. -/
def ofArgument (exclusions : List (Text → Bool)) (path : Text) : Except Failure (List Text) :=
  if s.isDirectory path then .ok (s.ofDirectory exclusions path)
  else if !s.present path && Inputs.isPattern path then s.ofPattern exclusions path
  else .ok [path]

/-- The files that the arguments stand for. -/
def collect (arguments excludes : List Text) : Except Failure (List Text) :=
  match Inputs.concat s.exclusion excludes with
  | .error failure => .error failure
  | .ok exclusions => Inputs.concat (s.ofArgument exclusions) arguments

lemma ofMatches_eq_ok_iff {exclusions : List (Text → Bool)} {pattern : Text}
    {paths files : List Text} :
    s.ofMatches exclusions pattern paths = .ok files ↔
      paths.flatMap (s.ofMatch exclusions) ≠ [] ∧
        Path.sort (paths.flatMap (s.ofMatch exclusions)) = files := by
  rw [ofMatches]
  cases paths.flatMap (s.ofMatch exclusions) <;> simp

lemma ofPattern_eq_ok_iff {exclusions : List (Text → Bool)} {pattern : Text}
    {files : List Text} :
    s.ofPattern exclusions pattern = .ok files ↔
      ∃ paths, s.expansion pattern = .ok paths ∧
        s.ofMatches exclusions pattern paths = .ok files := by
  rw [ofPattern]
  cases s.expansion pattern <;> simp

lemma collect_eq_ok_iff {arguments excludes files : List Text} :
    s.collect arguments excludes = .ok files ↔
      ∃ exclusions, Inputs.concat s.exclusion excludes = .ok exclusions ∧
        Inputs.concat (s.ofArgument exclusions) arguments = .ok files := by
  rw [collect]
  cases Inputs.concat s.exclusion excludes <;> simp

/-- The survey of the file system `fs`: every question is put to `fs`. -/
def ofFileSystem (fs : FileSystem) : Survey where
  isDirectory := fs.isDirectory
  isFile := fs.isFile
  present := fs.present
  entries := Walk.entries fs
  expansion := Expansion.paths fs
  acceptance := fun pattern => (Wildcard.parse pattern).map Wildcard.accepts

end Survey

namespace Inputs

/-- What `gather` gives is the results one after the other. -/
lemma result_gather {α : Type} (f : α → Traced (List Text)) (as : List α) :
    (gather f as).result = concat (fun a => (f a).result) as := by
  induction as with
  | nil => rfl
  | cons a as ih =>
    rw [gather, concat, Traced.result_bind]
    cases (f a).result with
    | error failure => rfl
    | ok first =>
      simp only [Except.bind, Traced.result_bind, ih]
      cases concat (fun a => (f a).result) as <;> rfl

/-- Where `f` cannot fail, the results one after the other are those of `flatMap`. -/
lemma concat_ok {α β : Type} (f : α → List β) (as : List α) :
    concat (fun a => .ok (f a)) as = .ok (as.flatMap f) := by
  induction as with
  | nil => rfl
  | cons a as ih => simp [concat, ih, Except.map]

/-- The patterns of excluded names are read one after the other by `parseExcludes`. -/
lemma concat_exclusion (fs : FileSystem) (excludes : List Text) :
    concat (Survey.ofFileSystem fs).exclusion excludes =
      (parseExcludes excludes).map (List.map Wildcard.accepts) := by
  induction excludes with
  | nil => rfl
  | cons pattern excludes ih =>
    rw [concat, parseExcludes, ih]
    simp only [Survey.exclusion, Survey.ofFileSystem]
    cases Wildcard.parse pattern with
    | error fault => rfl
    | ok w => cases parseExcludes excludes <;> rfl

lemma keeps_map_accepts (ws : List Wildcard) :
    Survey.keeps (ws.map Wildcard.accepts) = fun path => !isExcluded ws path := by
  funext path
  simp [Survey.keeps, isExcluded, List.any_map, Function.comp_def]

lemma result_ofDirectory (fs : FileSystem) (ws : List Wildcard) (root : Text) :
    (ofDirectory fs ws root).result =
      .ok ((Survey.ofFileSystem fs).ofDirectory (ws.map Wildcard.accepts) root) := by
  simp only [ofDirectory, Traced.result_note_bind, Traced.result_pure, Survey.ofDirectory,
    keeps_map_accepts]
  rfl

lemma result_ofMatch (fs : FileSystem) (ws : List Wildcard) (path : Text) :
    (ofMatch fs ws path).result =
      .ok ((Survey.ofFileSystem fs).ofMatch (ws.map Wildcard.accepts) path) := by
  simp only [ofMatch, Survey.ofMatch, keeps_map_accepts]
  change _ = Except.ok (if fs.isDirectory path = true then _ else _)
  cases fs.isDirectory path with
  | true => exact result_ofDirectory fs ws path
  | false => cases isExcluded ws path <;> rfl

lemma result_ofPattern (fs : FileSystem) (ws : List Wildcard) (pattern : Text) :
    (ofPattern fs ws pattern).result =
      (Survey.ofFileSystem fs).ofPattern (ws.map Wildcard.accepts) pattern := by
  simp only [ofPattern, Survey.ofPattern]
  change _ = match Expansion.paths fs pattern with | .error _ => _ | .ok _ => _
  cases Expansion.paths fs pattern with
  | error fault => rfl
  | ok paths =>
    simp only [Traced.result_bind, result_gather, result_ofMatch, concat_ok, Except.bind,
      Survey.ofMatches]
    split <;> rfl

lemma result_ofArgument (fs : FileSystem) (ws : List Wildcard) (path : Text) :
    (ofArgument fs ws path).result =
      (Survey.ofFileSystem fs).ofArgument (ws.map Wildcard.accepts) path := by
  simp only [ofArgument, Survey.ofArgument]
  change _ = if fs.isDirectory path = true then _ else
    if (!fs.present path && isPattern path) = true then _ else _
  split_ifs
  · exact result_ofDirectory fs ws path
  · exact result_ofPattern fs ws path
  · rfl

/-- The inputs that are collected from `fs` are those collected from its survey. -/
lemma result_collect (fs : FileSystem) (arguments excludes : List Text) :
    (collect fs arguments excludes).result =
      (Survey.ofFileSystem fs).collect arguments excludes := by
  rw [collect, Traced.result_bind, Traced.result_ofExcept, Survey.collect, concat_exclusion]
  cases parseExcludes excludes with
  | error failure => rfl
  | ok ws => simp only [Except.bind, Except.map, result_gather, result_ofArgument]

end Inputs

end RouteStubs
