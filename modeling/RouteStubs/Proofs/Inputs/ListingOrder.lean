import Mathlib
import RouteStubs.Proofs.Inputs.Surveys
import RouteStubs.Proofs.Path.Order

/-!
# The order of listings

The order in which the entries of directories and the matches of patterns are listed makes no
difference to the collected inputs. Every list of inputs for one argument is sorted, and the
components of sorted paths depend only on which paths there are. A pattern may match several
directories, each of which is searched and sorted on its own; the list for the pattern is sorted
once more, and so it does not depend on the order of those either.

File systems that list the same entries in different orders (`FileSystem.Reordered`) answer all
questions about paths in the same way, list the same below every directory up to the order, and
expand patterns to the same paths.
-/

namespace RouteStubs

/-! ## Reordered surveys -/

namespace Survey

/-- The surveys `s` and `s'` give the same answers, up to the order of what is listed below
directories and of what matches patterns. -/
structure Reordered (s s' : Survey) : Prop where
  isDirectory : s.isDirectory = s'.isDirectory
  isFile : s.isFile = s'.isFile
  present : s.present = s'.present
  acceptance : s.acceptance = s'.acceptance
  entries (root : Text) : (s.entries root).Perm (s'.entries root)
  expansion (pattern : Text) : s.expansion pattern = s'.expansion pattern ∨
    ∃ paths paths', s.expansion pattern = .ok paths ∧ s'.expansion pattern = .ok paths' ∧
      paths.Perm paths'

variable {s s' : Survey}

namespace Reordered

variable (h : Reordered s s')
include h

/-- A search below `root` finds the same wanted files in `s` and in `s'`. -/
lemma perm_kept (exclusions : List (Text → Bool)) (root : Text) :
    (((s.entries root).filter s.isWanted).filter (keeps exclusions)).Perm
      (((s'.entries root).filter s'.isWanted).filter (keeps exclusions)) := by
  have hwanted : s.isWanted = s'.isWanted := by
    unfold isWanted
    rw [h.isFile]
  rw [hwanted]
  exact ((h.entries root).filter _).filter _

lemma components_ofDirectory (exclusions : List (Text → Bool)) (root : Text) :
    (s.ofDirectory exclusions root).map Path.components =
      (s'.ofDirectory exclusions root).map Path.components :=
  Path.components_sort_of_perm (h.perm_kept exclusions root)

/-- A matching path `found` stands for the same files in `s` and in `s'`. -/
lemma perm_ofMatch (exclusions : List (Text → Bool)) (found : Text) :
    (s.ofMatch exclusions found).Perm (s'.ofMatch exclusions found) := by
  unfold ofMatch
  rw [h.isDirectory]
  split_ifs
  · exact (List.mergeSort_perm _ _).trans
      ((h.perm_kept exclusions found).trans (List.mergeSort_perm _ _).symm)
  · exact List.Perm.refl _
  · exact List.Perm.refl _

/-- The list for a `pattern` is sorted once more, so that the order of the matches does not show. -/
lemma components_ofMatches (exclusions : List (Text → Bool)) (pattern : Text)
    {paths paths' : List Text} (hpaths : paths.Perm paths') :
    (s.ofMatches exclusions pattern paths).map (List.map Path.components) =
      (s'.ofMatches exclusions pattern paths').map (List.map Path.components) := by
  have hperm : (paths.flatMap (s.ofMatch exclusions)).Perm
      (paths'.flatMap (s'.ofMatch exclusions)) :=
    hpaths.flatMap fun found _ => h.perm_ofMatch exclusions found
  unfold ofMatches
  dsimp only
  rw [hperm.isEmpty_eq]
  split_ifs
  · rfl
  · exact congrArg Except.ok (Path.components_sort_of_perm hperm)

lemma components_ofPattern (exclusions : List (Text → Bool)) (pattern : Text) :
    (s.ofPattern exclusions pattern).map (List.map Path.components) =
      (s'.ofPattern exclusions pattern).map (List.map Path.components) := by
  unfold ofPattern
  rcases h.expansion pattern with hsame | ⟨paths, paths', hpaths, hpaths', hperm⟩
  · rw [hsame]
    cases s'.expansion pattern with
    | error fault => rfl
    | ok paths => exact h.components_ofMatches exclusions pattern (List.Perm.refl paths)
  · rw [hpaths, hpaths']
    exact h.components_ofMatches exclusions pattern hperm

lemma components_ofArgument (exclusions : List (Text → Bool)) (argument : Text) :
    (s.ofArgument exclusions argument).map (List.map Path.components) =
      (s'.ofArgument exclusions argument).map (List.map Path.components) := by
  unfold ofArgument
  rw [h.isDirectory, h.present]
  split_ifs
  · exact congrArg Except.ok (h.components_ofDirectory exclusions argument)
  · exact h.components_ofPattern exclusions argument
  · rfl

/-- The inputs that `collect` gives have the same components for `s` and for `s'`. -/
lemma components_collect (arguments excludes : List Text) :
    (s.collect arguments excludes).map (List.map Path.components) =
      (s'.collect arguments excludes).map (List.map Path.components) := by
  have hexclusion : s.exclusion = s'.exclusion := by
    unfold exclusion
    rw [h.acceptance]
  unfold collect
  rw [hexclusion]
  cases Inputs.concat s'.exclusion excludes with
  | error failure => rfl
  | ok exclusions => exact Inputs.map_concat_congr (h.components_ofArgument exclusions) arguments

end Reordered

/-- The files for which an `argument` stands ascend in the order of paths. -/
lemma pairwise_ofArgument {exclusions : List (Text → Bool)} {argument : Text} {files : List Text}
    (h : s.ofArgument exclusions argument = .ok files) : files.Pairwise Path.NotAfter := by
  unfold ofArgument at h
  split_ifs at h
  · obtain rfl := Except.ok.inj h
    exact Path.pairwise_sort _
  · obtain ⟨paths, -, hmatches⟩ := s.ofPattern_eq_ok_iff.mp h
    obtain ⟨-, rfl⟩ := s.ofMatches_eq_ok_iff.mp hmatches
    exact Path.pairwise_sort _
  · obtain rfl := Except.ok.inj h
    exact List.pairwise_singleton _ _

lemma pairwise_collect {argument : Text} {excludes files : List Text}
    (h : s.collect [argument] excludes = .ok files) : files.Pairwise Path.NotAfter := by
  obtain ⟨exclusions, -, hconcat⟩ := s.collect_eq_ok_iff.mp h
  obtain ⟨first, others, hfirst, hothers, rfl⟩ := Inputs.concat_cons_eq_ok_iff.mp hconcat
  obtain rfl : [] = others := Except.ok.inj hothers
  rw [List.append_nil]
  exact pairwise_ofArgument hfirst

end Survey

/-! ## Reordered file systems -/

/-- The file systems `fs` and `fs'` have the same entries, each place at most once, in some order.
-/
structure FileSystem.Reordered (fs fs' : FileSystem) : Prop where
  entries : fs.entries.Perm fs'.entries
  distinct : (fs.entries.map Prod.fst).Nodup
  workingDirectory : fs.workingDirectory = fs'.workingDirectory

namespace FileSystem

/-- The order of entries at different places does not matter to what stands at `place`. -/
lemma lookup_eq_of_perm {es es' : List (Place × Entry)} (h : es.Perm es')
    (hdistinct : (es.map Prod.fst).Nodup) (place : Place) : es.lookup place = es'.lookup place := by
  induction h with
  | nil => rfl
  | cons e _ ih =>
    obtain ⟨q, e⟩ := e
    rw [List.map_cons, List.nodup_cons] at hdistinct
    rw [List.lookup_cons, List.lookup_cons, ih hdistinct.2]
  | swap e e' es =>
    obtain ⟨q, e⟩ := e
    obtain ⟨q', e'⟩ := e'
    have hne : q' ≠ q := by simp_all
    simp only [List.lookup_cons]
    by_cases hq : place = q
    · simp [hq, beq_false_of_ne hne.symm]
    · simp [beq_false_of_ne hq]
  | trans h _ ih ih' => rw [ih hdistinct, ih' ((h.map Prod.fst).nodup hdistinct)]

/-- Where steps lead by `walk` depends only on what stands at places. The inner induction is on the
steps, the outer one on the links, since a link puts new steps in front. -/
lemma walk_congr {fs fs' : FileSystem} (h : fs.entry? = fs'.entry?) (followLast : Bool)
    (links : Nat) (here : Place) (path : List Text) :
    fs.walk followLast links here path = fs'.walk followLast links here path := by
  induction links using Nat.strongRecOn generalizing here path with
  | _ links ihlinks =>
    induction path generalizing here with
    | nil => rw [walk, walk]
    | cons step more ih =>
      rw [walk, walk, h]
      simp only [ih]
      cases links with
      | zero => rfl
      | succ links => simp only [ihlinks links (Nat.lt_succ_self links)]

namespace Reordered

variable {fs fs' : FileSystem} (h : Reordered fs fs')
include h

lemma entry?_eq : fs.entry? = fs'.entry? := by
  funext place
  unfold entry?
  rw [lookup_eq_of_perm h.entries h.distinct]

lemma resolve_eq : fs.resolve = fs'.resolve := by
  funext followLast p
  unfold resolve
  rw [h.workingDirectory, walk_congr h.entry?_eq]

lemma status_eq : fs.status = fs'.status := by
  funext p
  unfold status
  rw [h.resolve_eq]

lemma isDirectory_eq : fs.isDirectory = fs'.isDirectory := by
  funext p
  unfold isDirectory
  rw [h.status_eq]

lemma isFile_eq : fs.isFile = fs'.isFile := by
  funext p
  unfold isFile
  rw [h.status_eq]

lemma present_eq : fs.present = fs'.present := by
  funext p
  unfold present
  rw [h.status_eq]

lemma linkPresent_eq : fs.linkPresent = fs'.linkPresent := by
  funext p
  unfold linkPresent
  rw [h.resolve_eq]

lemma ofDirectory_eq : IgnoreLayer.ofDirectory fs = IgnoreLayer.ofDirectory fs' := by
  funext directory
  simp only [IgnoreLayer.ofDirectory, read, h.status_eq, h.present_eq]

/-- A `directory` has the same names in it in `fs` and in `fs'`. -/
lemma perm_names (directory : Place) : (fs.names directory).Perm (fs'.names directory) :=
  h.entries.filterMap _

/-- The same is listed by `below` in `fs` and in `fs'`. The induction is on the depth of the search.
-/
lemma perm_below (depth : Nat) (surroundings : Walk.Surroundings) (path : Text) (place : Place) :
    (Walk.below fs depth surroundings path place).Perm
      (Walk.below fs' depth surroundings path place) := by
  induction depth generalizing surroundings path place with
  | zero => exact List.Perm.refl _
  | succ depth ih =>
    apply (h.perm_names place).flatMap
    intro name _
    simp only [h.entry?_eq, h.ofDirectory_eq]
    split_ifs
    · exact List.Perm.refl _
    · exact ih _ _ _
    · exact List.Perm.refl _

lemma perm_entries (root : Text) : (Walk.entries fs root).Perm (Walk.entries fs' root) := by
  unfold Walk.entries
  rw [h.status_eq, h.entries.length_eq]
  split
  · simp only [Walk.Surroundings.atRoot, h.ofDirectory_eq]
    exact h.perm_below _ _ _ _
  · exact List.Perm.refl _

/-- The names in a directory are met by `namesIn` in the same order, since they are sorted. -/
lemma namesIn_eq : Expansion.namesIn fs = Expansion.namesIn fs' := by
  funext directory
  unfold Expansion.namesIn
  rw [h.status_eq]
  split
  · next place _ =>
    exact List.map_injective_iff.mpr Path.map_toNat_injective
      (Path.map_mergeSort_of_perm (List.map Char.toNat) (h.perm_names place))
  · rfl

lemma follow_eq (onlyDirectories : Bool) (depth : Nat) (patterns : List Wildcard) (path : Text) :
    Expansion.follow fs onlyDirectories depth patterns path =
      Expansion.follow fs' onlyDirectories depth patterns path := by
  induction depth generalizing patterns path with
  | zero => cases patterns <;> rfl
  | succ depth ih =>
    cases patterns with
    | nil => simp only [Expansion.follow, h.isDirectory_eq]
    | cons w ws =>
      simp only [Expansion.follow, h.isDirectory_eq, h.present_eq, h.linkPresent_eq, h.namesIn_eq,
        ih]

lemma paths_eq : Expansion.paths fs = Expansion.paths fs' := by
  funext pattern
  simp only [Expansion.paths, h.follow_eq]

/-- The surveys of reordered file systems are reordered. -/
lemma survey : Survey.Reordered (.ofFileSystem fs) (.ofFileSystem fs') where
  isDirectory := h.isDirectory_eq
  isFile := h.isFile_eq
  present := h.present_eq
  acceptance := rfl
  entries := h.perm_entries
  expansion := fun pattern => .inl (congrFun h.paths_eq pattern)

end Reordered

end FileSystem

/-! ## Collected inputs -/

/-- Whatever the order of the listings, the same paths are collected, and those for one argument
ascend component by component. This is so for all surveys, and for the file systems they are of. -/
theorem collect_independent_of_listing (excludes : List Text) :
    (∀ s s' : Survey, s.Reordered s' → ∀ arguments,
      (s.collect arguments excludes).map (List.map Path.components) =
        (s'.collect arguments excludes).map (List.map Path.components)) ∧
    (∀ (s : Survey) (argument : Text) (files : List Text),
      s.collect [argument] excludes = .ok files → files.Pairwise Path.NotAfter) ∧
    (∀ fs fs' : FileSystem, fs.Reordered fs' → ∀ arguments,
      (Inputs.collect fs arguments excludes).result.map (List.map Path.components) =
        (Inputs.collect fs' arguments excludes).result.map (List.map Path.components)) ∧
    ∀ (fs : FileSystem) (argument : Text) (files : List Text),
      (Inputs.collect fs [argument] excludes).result = .ok files →
        files.Pairwise Path.NotAfter := by
  refine ⟨?_, ?_, ?_, ?_⟩
  · intro s s' h arguments
    exact h.components_collect arguments excludes
  · intro s argument files h
    exact Survey.pairwise_collect h
  · intro fs fs' h arguments
    rw [Inputs.result_collect, Inputs.result_collect]
    exact h.survey.components_collect arguments excludes
  · intro fs argument files h
    rw [Inputs.result_collect] at h
    exact Survey.pairwise_collect h

/-- The survey `s` with all listings from the last to the first. -/
def Survey.reversed (s : Survey) : Survey :=
  { s with
    entries := fun root => (s.entries root).reverse
    expansion := fun pattern => (s.expansion pattern).map List.reverse }

lemma Survey.reordered_reversed (s : Survey) : s.Reordered s.reversed where
  isDirectory := rfl
  isFile := rfl
  present := rfl
  acceptance := rfl
  entries := fun root => (s.entries root).reverse_perm.symm
  expansion := by
    intro pattern
    simp only [reversed]
    cases s.expansion pattern with
    | error fault => exact .inl rfl
    | ok paths => exact .inr ⟨paths, paths.reverse, rfl, rfl, paths.reverse_perm.symm⟩

/-- A directory whose paths are ordered otherwise by their texts than by their components: `a/b.go`
comes before `a-b.go`. -/
def hyphenTree : FileSystem where
  entries := [([lit "a-b.go"], .file []), ([lit "a.go"], .file []), ([lit "a"], .directory),
    ([lit "a", lit "b.go"], .file [])]
  workingDirectory := []

/-- What is in a directory comes before a file whose name begins with that of the directory. -/
theorem collect_independent_of_listing_hyphenTree :
    (Survey.ofFileSystem hyphenTree).collect [lit "*"] [] =
        .ok [lit "a/b.go", lit "a-b.go", lit "a.go"] ∧
      [lit "a/b.go", lit "a-b.go", lit "a.go"].Pairwise Path.NotAfter ∧
      ((Survey.ofFileSystem hyphenTree).reversed.collect [lit "*"] []).map
          (List.map Path.components) =
        .ok ([lit "a/b.go", lit "a-b.go", lit "a.go"].map Path.components) := by
  have hfiles : (Survey.ofFileSystem hyphenTree).collect [lit "*"] [] =
      .ok [lit "a/b.go", lit "a-b.go", lit "a.go"] := by cbv
  obtain ⟨hsame, hsorted, -⟩ := collect_independent_of_listing []
  refine ⟨hfiles, hsorted _ _ _ hfiles, ?_⟩
  rw [← hsame _ _ (Survey.reordered_reversed _), hfiles]
  rfl

end RouteStubs
