import Mathlib
import RouteStubs.Proofs.Inputs.Surveys
import RouteStubs.Proofs.Path.Order

/-!
# Composition of inputs

The inputs for two lists of arguments are those for the first followed by those for the second. More
patterns of excluded names leave out some of the inputs and move none of the others: this is so in
each sorted list, since sorting after leaving out is leaving out after sorting. An input is an
argument that stands for itself, or its name is not excluded, and it is a match of a pattern or has
been found in a search. What searches find are source files but no test files.
-/

namespace RouteStubs.Survey

variable (s : Survey)

/-! ## Where inputs come from -/

/-- The `argument` stands for itself. -/
def Given (argument : Text) : Prop :=
  s.isDirectory argument = false ∧
    (s.present argument = true ∨ Inputs.isPattern argument = false)

/-- The `argument` is taken as a pattern, and `path` matches it. -/
def Expands (argument path : Text) : Prop :=
  s.isDirectory argument = false ∧ s.present argument = false ∧
    Inputs.isPattern argument = true ∧ ∃ paths, s.expansion argument = .ok paths ∧ path ∈ paths

/-- The directory `root` is searched on account of the `argument`, which leads to it or matches it.
-/
def Searches (argument root : Text) : Prop :=
  s.isDirectory root = true ∧ (root = argument ∨ s.Expands argument root)

/-- None of the patterns `excludes` accepts the name of what `path` leads to. -/
def Admits (excludes : List Text) (path : Text) : Prop :=
  ∀ pattern ∈ excludes, ∀ accepts, s.acceptance pattern = .ok accepts →
    accepts ((Path.fileName? path).getD []) = false

/-- The file `path` is found among what is listed below the directory `root`. -/
def Finds (root path : Text) : Prop :=
  path ∈ s.entries root ∧ s.isFile path = true ∧ Path.isSource path = true ∧
    Path.isTest path = false

variable {s}

lemma exclusion_eq_ok_iff {pattern : Text} {found : List (Text → Bool)} :
    s.exclusion pattern = .ok found ↔
      ∃ accepts, s.acceptance pattern = .ok accepts ∧ [accepts] = found := by
  rw [exclusion]
  cases s.acceptance pattern <;> simp

/-- A path is kept by `keeps` exactly if no pattern in `excludes` accepts its name. -/
lemma keeps_iff_admits {excludes : List Text} {exclusions : List (Text → Bool)}
    (h : Inputs.concat s.exclusion excludes = .ok exclusions) {path : Text} :
    keeps exclusions path = true ↔ s.Admits excludes path := by
  simp only [keeps, Bool.not_eq_true', List.any_eq_false, Inputs.mem_concat_iff h,
    Bool.not_eq_true]
  constructor
  · intro hkept pattern hpattern accepts haccepts
    apply hkept accepts
    exact ⟨pattern, hpattern, [accepts], exclusion_eq_ok_iff.mpr ⟨accepts, haccepts, rfl⟩,
      List.mem_singleton_self accepts⟩
  · rintro hadmits accepts ⟨pattern, hpattern, found, hfound, hmem⟩
    obtain ⟨accepts', haccepts, rfl⟩ := exclusion_eq_ok_iff.mp hfound
    obtain rfl := List.mem_singleton.mp hmem
    exact hadmits pattern hpattern accepts haccepts

/-- The directory `root` stands for what is found in it and is kept. -/
lemma mem_ofDirectory {exclusions : List (Text → Bool)} {root path : Text} :
    path ∈ s.ofDirectory exclusions root ↔ s.Finds root path ∧ keeps exclusions path = true := by
  simp only [ofDirectory, Path.sort, List.mem_mergeSort, List.mem_filter, isWanted,
    Bool.and_eq_true, Bool.not_eq_true', Finds, and_assoc]

/-- A matching path `found` stands for itself, or for what is found in it. -/
lemma mem_ofMatch {exclusions : List (Text → Bool)} {found path : Text} :
    path ∈ s.ofMatch exclusions found ↔
      keeps exclusions path = true ∧ (s.isDirectory found = false ∧ path = found ∨
        s.isDirectory found = true ∧ s.Finds found path) := by
  rw [ofMatch]
  cases s.isDirectory found with
  | true => simp [mem_ofDirectory, and_comm]
  | false =>
    simp only [Bool.false_eq_true, if_false, List.mem_ite_nil_right, List.mem_singleton,
      true_and, false_and, or_false]
    apply and_congr_left
    intro hpath
    rw [hpath]

/-- An `argument` that is taken as a pattern stands for matches of it, and for what is found in
those that are directories. -/
lemma mem_ofPattern {exclusions : List (Text → Bool)} {argument path : Text} {files : List Text}
    (hdirectory : s.isDirectory argument = false) (habsent : s.present argument = false)
    (hpattern : Inputs.isPattern argument = true)
    (h : s.ofPattern exclusions argument = .ok files) :
    path ∈ files ↔ keeps exclusions path = true ∧
      (s.Expands argument path ∧ s.isDirectory path = false ∨
        ∃ root, s.Searches argument root ∧ s.Finds root path) := by
  obtain ⟨paths, hpaths, hmatches⟩ := s.ofPattern_eq_ok_iff.mp h
  obtain ⟨-, rfl⟩ := s.ofMatches_eq_ok_iff.mp hmatches
  have hexpands {found : Text} : s.Expands argument found ↔ found ∈ paths := by
    simp [Expands, hdirectory, habsent, hpattern, hpaths]
  rw [Path.sort, List.mem_mergeSort, List.mem_flatMap]
  constructor
  · rintro ⟨found, hfound, hmem⟩
    obtain ⟨hkept, ⟨hother, rfl⟩ | ⟨hroot, hfinds⟩⟩ := mem_ofMatch.mp hmem
    · exact ⟨hkept, .inl ⟨hexpands.mpr hfound, hother⟩⟩
    · exact ⟨hkept, .inr ⟨found, ⟨hroot, .inr (hexpands.mpr hfound)⟩, hfinds⟩⟩
  · rintro ⟨hkept, ⟨hmatch, hother⟩ | ⟨root, ⟨hroot, hsearched⟩, hfinds⟩⟩
    · exact ⟨path, hexpands.mp hmatch, mem_ofMatch.mpr ⟨hkept, .inl ⟨hother, rfl⟩⟩⟩
    · rcases hsearched with rfl | hmatch
      · simp [hdirectory] at hroot
      · exact ⟨root, hexpands.mp hmatch, mem_ofMatch.mpr ⟨hkept, .inr ⟨hroot, hfinds⟩⟩⟩

/-- The `files` that an `argument` stands for: itself, a match of it, or what is found in a
directory. -/
lemma mem_ofArgument {exclusions : List (Text → Bool)} {argument path : Text} {files : List Text}
    (h : s.ofArgument exclusions argument = .ok files) :
    path ∈ files ↔ s.Given argument ∧ path = argument ∨ keeps exclusions path = true ∧
      (s.Expands argument path ∧ s.isDirectory path = false ∨
        ∃ root, s.Searches argument root ∧ s.Finds root path) := by
  rw [ofArgument] at h
  split_ifs at h with hdirectory hpattern
  · obtain rfl := Except.ok.inj h
    have hnot (p : Text) : ¬ s.Expands argument p := by simp [Expands, hdirectory]
    rw [mem_ofDirectory]
    simp [Given, Searches, hdirectory, hnot, and_comm]
  · rw [Bool.not_eq_true] at hdirectory
    rw [Bool.and_eq_true, Bool.not_eq_true'] at hpattern
    rw [mem_ofPattern hdirectory hpattern.1 hpattern.2 h]
    simp [Given, hpattern]
  · obtain rfl := Except.ok.inj h
    rw [Bool.not_eq_true] at hdirectory
    have hgiven : s.Given argument := by
      refine ⟨hdirectory, ?_⟩
      cases hpresent : s.present argument <;> simp_all
    have hexpands (p : Text) : ¬ s.Expands argument p := by
      rintro ⟨-, habsent, hcharacters, -⟩
      simp [habsent, hcharacters] at hpattern
    have hsearches (root : Text) : ¬ s.Searches argument root := by
      rintro ⟨hroot, rfl | hexpanded⟩
      · simp [hdirectory] at hroot
      · exact hexpands root hexpanded
    simp [hgiven, hexpands, hsearches]

/-! ## Leaving out more -/

lemma keeps_append (as bs : List (Text → Bool)) (path : Text) :
    keeps (as ++ bs) path = (keeps as path && keeps bs path) := by
  simp [keeps, List.any_append]

/-- A search with the exclusions `as ++ bs` finds some of what it finds with `as`, in the same
order. -/
lemma ofDirectory_sublist (as bs : List (Text → Bool)) (root : Text) :
    (s.ofDirectory (as ++ bs) root).Sublist (s.ofDirectory as root) := by
  apply Path.sort_sublist
  apply List.monotone_filter_right
  intro path hkept
  rw [keeps_append, Bool.and_eq_true] at hkept
  exact hkept.1

lemma ofMatch_sublist (as bs : List (Text → Bool)) (found : Text) :
    (s.ofMatch (as ++ bs) found).Sublist (s.ofMatch as found) := by
  unfold ofMatch
  cases s.isDirectory found with
  | true => exact ofDirectory_sublist as bs found
  | false =>
    rw [keeps_append]
    cases keeps as found <;> cases keeps bs found <;> simp

/-- A `pattern` that still stands for something with more exclusions did so before, and in the same
order. -/
lemma ofPattern_sublist {as bs : List (Text → Bool)} {pattern : Text} {files : List Text}
    (h : s.ofPattern (as ++ bs) pattern = .ok files) :
    ∃ all, s.ofPattern as pattern = .ok all ∧ files.Sublist all := by
  obtain ⟨paths, hpaths, hmatches⟩ := s.ofPattern_eq_ok_iff.mp h
  obtain ⟨hsome, rfl⟩ := s.ofMatches_eq_ok_iff.mp hmatches
  have hparts : (paths.flatMap (s.ofMatch (as ++ bs))).Sublist (paths.flatMap (s.ofMatch as)) :=
    List.Sublist.flatMap_right paths fun found _ => ofMatch_sublist as bs found
  -- Nothing can be left out of nothing.
  have hsome' : paths.flatMap (s.ofMatch as) ≠ [] := by
    intro hnone
    rw [hnone] at hparts
    exact hsome (List.sublist_nil.mp hparts)
  refine ⟨Path.sort (paths.flatMap (s.ofMatch as)), ?_, Path.sort_sublist hparts⟩
  rw [ofPattern_eq_ok_iff]
  exact ⟨paths, hpaths, s.ofMatches_eq_ok_iff.mpr ⟨hsome', rfl⟩⟩

lemma ofArgument_sublist {as bs : List (Text → Bool)} {argument : Text} {files : List Text}
    (h : s.ofArgument (as ++ bs) argument = .ok files) :
    ∃ all, s.ofArgument as argument = .ok all ∧ files.Sublist all := by
  unfold ofArgument at h ⊢
  split_ifs at h ⊢
  · obtain rfl := Except.ok.inj h
    exact ⟨_, rfl, ofDirectory_sublist as bs argument⟩
  · exact ofPattern_sublist h
  · exact ⟨files, h, List.Sublist.refl _⟩

/-! ## Composition -/

/-- The inputs for the arguments `a ++ b` are those for `a` and then those for `b`. -/
lemma collect_append_eq_ok_iff {a b x files : List Text} :
    s.collect (a ++ b) x = .ok files ↔
      ∃ first others, s.collect a x = .ok first ∧ s.collect b x = .ok others ∧
        first ++ others = files := by
  simp only [collect_eq_ok_iff, Inputs.concat_append_eq_ok_iff]
  constructor
  · rintro ⟨exclusions, hexclusions, first, others, hfirst, hothers, rfl⟩
    exact ⟨first, others, ⟨exclusions, hexclusions, hfirst⟩, ⟨exclusions, hexclusions, hothers⟩,
      rfl⟩
  · rintro ⟨first, others, ⟨exclusions, hexclusions, hfirst⟩,
      ⟨exclusions', hexclusions', hothers⟩, rfl⟩
    obtain rfl : exclusions = exclusions' := Except.ok.inj (hexclusions.symm.trans hexclusions')
    exact ⟨exclusions, hexclusions, first, others, hfirst, hothers, rfl⟩

/-- More excluded names `y` leave out some of the inputs. -/
lemma collect_sublist {a x y files : List Text} (h : s.collect a (x ++ y) = .ok files) :
    ∃ all, s.collect a x = .ok all ∧ files.Sublist all := by
  obtain ⟨exclusions, hexclusions, hconcat⟩ := s.collect_eq_ok_iff.mp h
  obtain ⟨as, bs, has, -, rfl⟩ := Inputs.concat_append_eq_ok_iff.mp hexclusions
  obtain ⟨all, hall, hparts⟩ :=
    Inputs.concat_sublist (fun _ _ hfound => ofArgument_sublist hfound) hconcat
  exact ⟨all, s.collect_eq_ok_iff.mpr ⟨as, has, hall⟩, hparts⟩

/-- Where an input comes from, among the arguments `a`. -/
lemma mem_collect {a x files : List Text} (h : s.collect a x = .ok files) {path : Text} :
    path ∈ files ↔ ∃ argument ∈ a,
      s.Given argument ∧ path = argument ∨ s.Admits x path ∧
        (s.Expands argument path ∧ s.isDirectory path = false ∨
          ∃ root, s.Searches argument root ∧ s.Finds root path) := by
  obtain ⟨exclusions, hexclusions, hconcat⟩ := s.collect_eq_ok_iff.mp h
  rw [Inputs.mem_concat_iff hconcat]
  constructor
  · rintro ⟨argument, hargument, found, hfound, hpath⟩
    rw [mem_ofArgument hfound, keeps_iff_admits hexclusions] at hpath
    exact ⟨argument, hargument, hpath⟩
  · rintro ⟨argument, hargument, hpath⟩
    obtain ⟨found, hfound⟩ := Inputs.exists_eq_ok_of_concat hconcat hargument
    rw [← keeps_iff_admits hexclusions, ← mem_ofArgument hfound] at hpath
    exact ⟨argument, hargument, found, hfound, hpath⟩

/-- Inputs are collected argument by argument, and more excluded names only leave some of them out.
This is so for every survey `s`, and a file system is collected from as its survey is. -/
theorem collect_composes (s : Survey) (a b x y : List Text) :
    (∀ files, s.collect (a ++ b) x = .ok files ↔
      ∃ first others, s.collect a x = .ok first ∧ s.collect b x = .ok others ∧
        first ++ others = files) ∧
    (∀ files, s.collect a (x ++ y) = .ok files →
      (∃ all, s.collect a x = .ok all ∧ files.Sublist all) ∧
      ∀ path, path ∈ files ↔ ∃ argument ∈ a,
        s.Given argument ∧ path = argument ∨ s.Admits (x ++ y) path ∧
          (s.Expands argument path ∧ s.isDirectory path = false ∨
            ∃ root, s.Searches argument root ∧ s.Finds root path)) ∧
    (∀ exclusions root, ∀ path ∈ s.ofDirectory exclusions root,
      Path.isSource path = true ∧ Path.isTest path = false) ∧
    ∀ fs, (Inputs.collect fs a x).result = (ofFileSystem fs).collect a x := by
  refine ⟨?_, ?_, ?_, ?_⟩
  · intro files
    exact collect_append_eq_ok_iff
  · intro files hfiles
    constructor
    · exact collect_sublist hfiles
    · intro path
      exact mem_collect hfiles
  · intro exclusions root path hpath
    obtain ⟨⟨-, -, hsource, htest⟩, -⟩ := mem_ofDirectory.mp hpath
    exact ⟨hsource, htest⟩
  · intro fs
    exact Inputs.result_collect fs a x

/-- A directory in which the pattern `a*` matches a directory and a file. -/
def mixedTree : FileSystem where
  entries := [([lit "api"], .directory), ([lit "api", lit "b.go"], .file []),
    ([lit "api", lit "a_test.go"], .file []), ([lit "api", lit "a.go"], .file []),
    ([lit "api", lit "a-b.go"], .file []), ([lit "ax.go"], .file []), ([lit "main.go"], .file [])]
  workingDirectory := []

/-- The argument `main.go`, which stands for itself, is kept though its name is excluded. -/
theorem collect_composes_mixedTree :
    (ofFileSystem mixedTree).collect [lit "a*", lit "main.go"] ([lit "?.go"] ++ [lit "m*"]) =
        .ok [lit "api/a-b.go", lit "ax.go", lit "main.go"] ∧
      ∃ all, (ofFileSystem mixedTree).collect [lit "a*", lit "main.go"] [lit "?.go"] = .ok all ∧
        [lit "api/a-b.go", lit "ax.go", lit "main.go"].Sublist all := by
  have hfiles : (ofFileSystem mixedTree).collect [lit "a*", lit "main.go"]
      ([lit "?.go"] ++ [lit "m*"]) = .ok [lit "api/a-b.go", lit "ax.go", lit "main.go"] := by cbv
  exact ⟨hfiles, ((collect_composes _ _ [] [lit "?.go"] [lit "m*"]).2.1 _ hfiles).1⟩

end RouteStubs.Survey
