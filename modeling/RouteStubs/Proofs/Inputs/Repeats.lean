import Mathlib
import RouteStubs.Proofs.FileSystem.LinkFree
import RouteStubs.Proofs.Inputs.Surveys
import RouteStubs.Proofs.Inputs.Walks

/-!
# Files that a pattern stands for more than once

A pattern can match a directory, which is then searched, and also files and directories below it. A
file is listed once for each match that stands for it, so that a pattern stands for a file more than
once exactly if two of its matches do. Searches by themselves repeat nothing: each file below a
directory is found once.

Paths are taken to be the same if they have the same components.
-/

namespace RouteStubs

/-! ## Searches -/

namespace FileSystem

/-- Each place is listed once in `fs`, and places are made of names. -/
structure Listed (fs : FileSystem) : Prop where
  distinct : (fs.entries.map Prod.fst).Nodup
  isName : ∀ place ∈ fs.entries.map Prod.fst, ∀ name ∈ place, Path.IsName name

variable {fs : FileSystem}

/-- The names in a `directory` are the last ones of the places in it. -/
lemma names_eq (fs : FileSystem) (directory : Place) :
    fs.names directory = (fs.entries.map Prod.fst).filterMap fun place =>
      match place.getLast? with
      | some name => if place.dropLast = directory then some name else none
      | none => none := by
  rw [List.filterMap_map]
  rfl

/-- What a `place` contributes to the names in a `directory` determines the place. -/
lemma eq_concat_of_name {directory place : Place} {name : Text}
    (h : name ∈ (match place.getLast? with
      | some name => if place.dropLast = directory then some name else none
      | none => none : Option Text)) : place = directory ++ [name] := by
  split at h
  · next last hlast =>
    rw [Option.mem_def, Option.ite_none_right_eq_some] at h
    obtain ⟨rfl, hname⟩ := h
    rw [← Option.some.inj hname, List.dropLast_append_getLast? last hlast]
  · contradiction

lemma Listed.isName_of_mem_names (h : fs.Listed) {directory : Place} {name : Text}
    (hname : name ∈ fs.names directory) : Path.IsName name := by
  rw [names_eq, List.mem_filterMap] at hname
  obtain ⟨place, hplace, hname⟩ := hname
  refine h.isName place hplace name ?_
  rw [eq_concat_of_name hname]
  simp

lemma Listed.nodup_names (h : fs.Listed) (directory : Place) : (fs.names directory).Nodup := by
  rw [names_eq]
  refine h.distinct.filterMap fun place place' name hname hname' => ?_
  rw [eq_concat_of_name hname, eq_concat_of_name hname']

end FileSystem

namespace Walk

variable {fs : FileSystem} (hfs : fs.Listed)
include hfs

/-- A path `p` that is found at a `name` leads on from the directory by this name. -/
lemma exists_components_of_mem_visit {depth : Nat} {surroundings : Surroundings} {path p : Text}
    {place : Place} {name : Text} (hname : name ∈ fs.names place)
    (h : p ∈ visit fs depth surroundings path place name) :
    ∃ others, Path.components p = Path.components path ++ .normal name :: others := by
  have hjoin {path : Text} {place : Place} {name : Text} (hname : name ∈ fs.names place) :=
    Path.components_join path (hfs.isName_of_mem_names hname)
  induction depth generalizing surroundings path place name with
  | zero =>
    dsimp only [visit, below] at h
    split_ifs at h
    · contradiction
    · contradiction
    · rw [List.mem_singleton.mp h, hjoin hname]
      exact ⟨[], rfl⟩
  | succ depth ih =>
    dsimp only [visit] at h
    split_ifs at h
    · contradiction
    · rw [below_eq_visit] at h
      obtain ⟨name', hname', hp⟩ := List.mem_flatMap.mp h
      obtain ⟨others, hothers⟩ := ih hname' hp
      rw [hothers, hjoin hname, List.append_assoc]
      exact ⟨.normal name' :: others, rfl⟩
    · rw [List.mem_singleton.mp h, hjoin hname]
      exact ⟨[], rfl⟩

/-- A search by `below` lists no path twice. The names in a directory are different, and so are the
paths that lead on from it by different names. -/
lemma nodup_below (depth : Nat) (surroundings : Surroundings) (path : Text) (place : Place) :
    ((below fs depth surroundings path place).map Path.components).Nodup := by
  induction depth generalizing surroundings path place with
  | zero => exact List.nodup_nil
  | succ depth ih =>
    rw [below_eq_visit, List.map_flatMap, List.nodup_flatMap]
    constructor
    · intro name _
      dsimp only [visit]
      split_ifs
      · exact List.nodup_nil
      · exact ih _ _ _
      · exact List.nodup_singleton _
    · refine (hfs.nodup_names place).imp_of_mem fun {name name'} hname hname' hne c hc hc' => ?_
      obtain ⟨p, hp, rfl⟩ := List.mem_map.mp hc
      obtain ⟨p', hp', hsame⟩ := List.mem_map.mp hc'
      obtain ⟨others, hothers⟩ := exists_components_of_mem_visit hfs hname hp
      obtain ⟨others', hothers'⟩ := exists_components_of_mem_visit hfs hname' hp'
      rw [hothers, hothers', List.append_cancel_left_eq, List.cons.injEq] at hsame
      exact hne (Path.Component.normal.inj hsame.1).symm

end Walk

namespace Survey

/-- What `s` lists below a directory lies below it, and is listed once. -/
structure ListsOnce (s : Survey) : Prop where
  nodup (root : Text) : ((s.entries root).map Path.components).Nodup
  below (root : Text) :
    ∀ path ∈ s.entries root, Path.components root <+: Path.components path

/-- The components of the files that the match `found` stands for. -/
def reach (s : Survey) (exclusions : List (Text → Bool)) (found : Text) :
    List (List Path.Component) :=
  (s.ofMatch exclusions found).map Path.components

variable {s : Survey} {exclusions : List (Text → Bool)}

/-- The match `found` stands for each of its files once. -/
lemma ListsOnce.nodup_reach (hs : s.ListsOnce) (found : Text) :
    (s.reach exclusions found).Nodup := by
  unfold reach ofMatch
  split_ifs
  · have hperm := (List.mergeSort_perm (((s.entries found).filter s.isWanted).filter
      (keeps exclusions)) Path.le).map Path.components
    rw [ofDirectory, Path.sort, hperm.nodup_iff]
    exact (hs.nodup found).sublist ((List.filter_sublist.trans List.filter_sublist).map _)
  · exact List.nodup_singleton _
  · exact List.nodup_nil

/-- A file with the components `c` is listed once for each match that stands for it. -/
lemma ListsOnce.count_flatMap_reach (hs : s.ListsOnce) (paths : List Text)
    (c : List Path.Component) :
    (paths.flatMap (s.reach exclusions)).count c =
      paths.countP fun found => decide (c ∈ s.reach exclusions found) := by
  induction paths with
  | nil => rfl
  | cons found paths ih =>
    rw [List.flatMap_cons, List.count_append, ih, List.countP_cons, Nat.add_comm,
      (hs.nodup_reach found).count]
    simp

/-- What a `pattern` stands for is what its matches stand for, in some order. -/
lemma perm_components {pattern : Text} {paths files : List Text}
    (hpaths : s.expansion pattern = .ok paths)
    (hfiles : s.ofPattern exclusions pattern = .ok files) :
    (files.map Path.components).Perm (paths.flatMap (s.reach exclusions)) := by
  obtain ⟨paths', hpaths', hmatches⟩ := s.ofPattern_eq_ok_iff.mp hfiles
  obtain rfl : paths = paths' := Except.ok.inj (hpaths.symm.trans hpaths')
  obtain ⟨-, rfl⟩ := s.ofMatches_eq_ok_iff.mp hmatches
  have hreach : paths.flatMap (s.reach exclusions) =
      (paths.flatMap (s.ofMatch exclusions)).map Path.components := List.map_flatMap.symm
  rw [hreach]
  exact (List.mergeSort_perm _ _).map Path.components

/-- A match `found` that is no directory stands for nothing but itself. -/
lemma eq_of_mem_reach {found : Text} {c : List Path.Component}
    (hfound : s.isDirectory found = false) (h : c ∈ s.reach exclusions found) :
    c = Path.components found := by
  obtain ⟨path, hpath, rfl⟩ := List.mem_map.mp h
  rw [ofMatch, hfound] at hpath
  simp only [Bool.false_eq_true, if_false, List.mem_ite_nil_right, List.mem_singleton] at hpath
  rw [hpath.2]

/-- What the match `found` stands for is `found` or lies below it. -/
lemma ListsOnce.isPrefix_of_mem_reach (hs : s.ListsOnce) {found : Text} {c : List Path.Component}
    (h : c ∈ s.reach exclusions found) : Path.components found <+: c := by
  cases hfound : s.isDirectory found with
  | false => exact (eq_of_mem_reach hfound h) ▸ List.prefix_refl _
  | true =>
    obtain ⟨path, hpath, rfl⟩ := List.mem_map.mp h
    rw [ofMatch, hfound, if_pos rfl, ofDirectory, Path.sort, List.mem_mergeSort] at hpath
    exact hs.below found path (List.mem_of_mem_filter (List.mem_of_mem_filter hpath))

/-- Matches `found` and `found'` of which none lies below the other, a directory, stand for
different files. -/
lemma ListsOnce.disjoint_reach (hs : s.ListsOnce) {found found' : Text}
    (hne : Path.components found ≠ Path.components found')
    (h : s.isDirectory found = true → ¬Path.components found <+: Path.components found')
    (h' : s.isDirectory found' = true → ¬Path.components found' <+: Path.components found) :
    (s.reach exclusions found).Disjoint (s.reach exclusions found') := by
  intro c hc hc'
  have hprefix := hs.isPrefix_of_mem_reach hc
  have hprefix' := hs.isPrefix_of_mem_reach hc'
  cases hfound : s.isDirectory found with
  | false =>
    obtain rfl := eq_of_mem_reach hfound hc
    cases hfound' : s.isDirectory found' with
    | false => exact hne (eq_of_mem_reach hfound' hc')
    | true => exact h' hfound' hprefix'
  | true =>
    cases hfound' : s.isDirectory found' with
    | false =>
      obtain rfl := eq_of_mem_reach hfound' hc'
      exact h hfound hprefix
    | true =>
      rcases List.prefix_or_prefix_of_prefix hprefix hprefix' with hbelow | hbelow
      · exact h hfound hbelow
      · exact h' hfound' hbelow

/-- The survey of a file system lists what is below directories, and lists it once. -/
lemma listsOnce_ofFileSystem {fs : FileSystem} (hfs : fs.Listed) : (ofFileSystem fs).ListsOnce where
  nodup := by
    intro root
    change ((Walk.entries fs root).map Path.components).Nodup
    unfold Walk.entries
    split
    · exact Walk.nodup_below hfs _ _ _ _
    · exact List.nodup_nil
  below := by
    intro root path hpath
    change path ∈ Walk.entries fs root at hpath
    unfold Walk.entries at hpath
    split at hpath
    · rw [Walk.below_eq_visit] at hpath
      obtain ⟨name, hname, hpath⟩ := List.mem_flatMap.mp hpath
      obtain ⟨others, hothers⟩ := Walk.exists_components_of_mem_visit hfs hname hpath
      rw [hothers]
      exact List.prefix_append _ _
    · contradiction

/-- A `pattern` stands for a file as often as matches of the pattern do. So it stands for no file
twice exactly if no two of its matches stand for one file, and this is so if the matches are
different and none of them lies below another one that is a directory. Searches of file systems list
each file below a directory once, as `ListsOnce` supposes, and what is collected for a pattern from
a file system is what its survey says. -/
theorem pattern_repeats_iff (hs : s.ListsOnce) {pattern : Text} {paths files : List Text}
    (hpaths : s.expansion pattern = .ok paths)
    (hfiles : s.ofPattern exclusions pattern = .ok files) :
    (∀ c, (files.map Path.components).count c =
      paths.countP fun found => decide (c ∈ s.reach exclusions found)) ∧
    ((files.map Path.components).Nodup ↔ paths.Pairwise fun found found' =>
      (s.reach exclusions found).Disjoint (s.reach exclusions found')) ∧
    ((paths.map Path.components).Nodup →
      (∀ found ∈ paths, s.isDirectory found = true → ∀ found' ∈ paths,
        Path.components found <+: Path.components found' →
          Path.components found = Path.components found') →
      (files.map Path.components).Nodup) ∧
    ∀ fs : FileSystem, fs.Listed → (ofFileSystem fs).ListsOnce ∧
      ∀ (excludes : List Wildcard) (pattern : Text),
        (Inputs.ofPattern fs excludes pattern).result =
          (ofFileSystem fs).ofPattern (excludes.map Wildcard.accepts) pattern := by
  have hperm := perm_components hpaths hfiles
  have hiff : (files.map Path.components).Nodup ↔ paths.Pairwise fun found found' =>
      (s.reach exclusions found).Disjoint (s.reach exclusions found') := by
    rw [hperm.nodup_iff, List.nodup_flatMap]
    exact and_iff_right fun found _ => hs.nodup_reach found
  refine ⟨fun c => ?_, hiff, fun hdistinct hapart => hiff.mpr ?_, fun fs hfs => ?_⟩
  · rw [hperm.count_eq, hs.count_flatMap_reach]
  · refine (List.pairwise_map.mp hdistinct).imp_of_mem fun {found found'} hmem hmem' hne => ?_
    refine hs.disjoint_reach hne (fun hfound hbelow => ?_) fun hfound' hbelow => ?_
    · exact hne (hapart found hmem hfound found' hmem' hbelow)
    · exact hne (hapart found' hmem' hfound' found hmem hbelow).symm
  · exact ⟨listsOnce_ofFileSystem hfs, fun excludes pattern =>
      Inputs.result_ofPattern fs excludes pattern⟩

/-- A directory `a/b` within another one, with a file in it. -/
def nestedTree : FileSystem where
  entries := [([lit "a"], .directory), ([lit "a", lit "b"], .directory),
    ([lit "a", lit "b", lit "x.go"], .file [])]
  workingDirectory := []

lemma listed_nestedTree : nestedTree.Listed := ⟨by decide +kernel, by decide +kernel⟩

lemma linkFree_nestedTree : nestedTree.LinkFree :=
  FileSystem.linkFree_of_entries (by simp [nestedTree])

lemma expansion_nestedTree :
    (ofFileSystem nestedTree).expansion (lit "**") = .ok [lit "a", lit "a/b"] := by
  cbv

lemma ofPattern_nestedTree :
    (ofFileSystem nestedTree).ofPattern [] (lit "**") =
      .ok [lit "a/b/x.go", lit "a/b/x.go"] := by
  cbv

/-- The pattern `**`, which matches both directories, stands for the file twice. -/
theorem nested_matches_repeat_file :
    nestedTree.LinkFree ∧ nestedTree.Listed ∧
      Expansion.paths nestedTree (lit "**") = .ok [lit "a", lit "a/b"] ∧
      (Inputs.ofPattern nestedTree [] (lit "**")).result =
        .ok [lit "a/b/x.go", lit "a/b/x.go"] ∧
      ¬[lit "a/b/x.go", lit "a/b/x.go"].Nodup := by
  refine ⟨linkFree_nestedTree, listed_nestedTree, expansion_nestedTree, ?_, by decide⟩
  rw [Inputs.result_ofPattern]
  exact ofPattern_nestedTree

/-- The pattern `*`, which matches the outer directory, stands for the file once, and `**` does so
as often as there are matches. -/
theorem pattern_repeats_iff_nestedTree :
    (ofFileSystem nestedTree).ofPattern [] (lit "*") = .ok [lit "a/b/x.go"] ∧
      ([lit "a/b/x.go"].map Path.components).Nodup ∧
      ([lit "a/b/x.go", lit "a/b/x.go"].map Path.components).count
        (Path.components (lit "a/b/x.go")) =
          [lit "a", lit "a/b"].countP fun found => decide
            (Path.components (lit "a/b/x.go") ∈ (ofFileSystem nestedTree).reach [] found) := by
  have hlists := listsOnce_ofFileSystem listed_nestedTree
  have hpaths : (ofFileSystem nestedTree).expansion (lit "*") = .ok [lit "a"] := by cbv
  have hfiles : (ofFileSystem nestedTree).ofPattern [] (lit "*") = .ok [lit "a/b/x.go"] := by cbv
  refine ⟨hfiles, ?_, ?_⟩
  · apply (pattern_repeats_iff hlists hpaths hfiles).2.2.1 (List.nodup_singleton _)
    intro found hfound _ found' hfound' _
    rw [List.mem_singleton.mp hfound, List.mem_singleton.mp hfound']
  · exact (pattern_repeats_iff hlists expansion_nestedTree ofPattern_nestedTree).1 _

end Survey

end RouteStubs
