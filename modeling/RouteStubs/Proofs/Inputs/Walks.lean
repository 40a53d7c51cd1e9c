import Mathlib.Data.List.Basic
import RouteStubs.Inputs.Collect
import RouteStubs.Proofs.FileSystem.CompanionFiles

/-!
# Inputs beside test files

A test file that is written into a directory tree changes nothing about the search of the tree. Its
name is none of those of ignore files, so that the ignore rules stay the same; and it is no source
file itself, so that it is not found. The inputs that arguments stand for are therefore the same
before and after test files are written, as long as every argument leads to something that is a
directory or not a test file.
-/

namespace RouteStubs

/-! ## Ignore files -/

namespace IgnoreLayer

/-- The absolute path of an ignore file ends with its `name`. -/
lemma exists_absolutePath_eq (directory : Place) (name : String) :
    ∃ front, absolutePath directory name = front ++ '/' :: name.toList := by
  unfold absolutePath
  induction directory with
  | nil => exact ⟨[], by simp⟩
  | cons first directory ih =>
    obtain ⟨front, hfront⟩ := ih
    cases directory with
    | nil => exact ⟨'/' :: first, by simp [List.intercalate_cons_cons]⟩
    | cons second directory =>
      refine ⟨'/' :: first ++ front, ?_⟩
      rw [List.cons_append, List.cons_append, List.intercalate_cons_cons]
      rw [List.cons_append] at hfront
      rw [List.append_assoc, List.singleton_append, hfront]
      simp

/-- Whether `absolutePath` gives the path of a test file depends on the `name`. -/
lemma isTest_absolutePath (directory : Place) {name : String} {last : Text}
    (hlast : (Path.parts name.toList).getLast? = some last) (hdot : last ≠ ['.'])
    (hdots : last ≠ ['.', '.']) :
    Path.isTest (absolutePath directory name) = Path.isTest name.toList := by
  obtain ⟨front, hpath⟩ := exists_absolutePath_eq directory name
  have hparts : (Path.parts (absolutePath directory name)).getLast? = some last := by
    rw [hpath, Path.parts_append_cons, List.getLast?_append, hlast]
    rfl
  apply Path.isTest_eq_of_fileName?_eq
  rw [Path.fileName?_eq_some hparts hdot hdots, Path.fileName?_eq_some hlast hdot hdots]

/-- Ignore files, and what makes a directory a repository, are no test files. -/
lemma isTest_ignoreFile (directory : Place) {name : String}
    (h : name ∈ [".ignore", ".gitignore", ".git/info/exclude", ".git"]) :
    Path.isTest (absolutePath directory name) = false := by
  obtain ⟨last, hlast, hdot, hdots⟩ : ∃ last, (Path.parts name.toList).getLast? = some last ∧
      last ≠ ['.'] ∧ last ≠ ['.', '.'] := by
    simp only [List.mem_cons, List.not_mem_nil, or_false] at h
    rcases h with rfl | rfl | rfl | rfl
    · exact ⟨lit ".ignore", by decide⟩
    · exact ⟨lit ".gitignore", by decide⟩
    · exact ⟨lit "exclude", by decide⟩
    · exact ⟨lit ".git", by decide⟩
  rw [isTest_absolutePath directory hlast hdot hdots]
  simp only [List.mem_cons, List.not_mem_nil, or_false] at h
  rcases h with rfl | rfl | rfl | rfl <;> decide

/-- The rules of the ignore file that the path `p` leads to. -/
def rulesAt (fs : FileSystem) (p : Text) : List IgnoreRule :=
  ((fs.read p).toOption.map IgnoreRule.ofContent).getD []

/-- The layer of a `directory` is made of four questions to the file system. -/
lemma ofDirectory_eq (fs : FileSystem) (directory : Place) :
    ofDirectory fs directory =
      ⟨rulesAt fs (absolutePath directory ".ignore"),
        rulesAt fs (absolutePath directory ".gitignore"),
        rulesAt fs (absolutePath directory ".git/info/exclude"),
        fs.present (absolutePath directory ".git")⟩ := by
  unfold ofDirectory rulesAt
  dsimp only
  cases fs.read (absolutePath directory ".ignore") <;>
    cases fs.read (absolutePath directory ".gitignore") <;>
    cases fs.read (absolutePath directory ".git/info/exclude") <;> rfl

end IgnoreLayer

namespace FileSystem.WithCompanions

variable {directory : Text} {fs fs' : FileSystem} (hfs : fs.LinkFree)
  (h : WithCompanions directory fs fs')
include hfs h

/-- What is there in `fs` is there in `fs'`, and nothing else, test files apart. -/
lemma present_eq {p : Text} (hp : Path.isTest p = false) : fs'.present p = fs.present p := by
  unfold present
  rcases status_eq_or_error (h.toOption_status hfs hp) with hsame | ⟨cause, cause', hbefore, hafter⟩
  · rw [hsame]
  · rw [hbefore, hafter]
    rfl

/-- The ignore rules of the directory at `place` are the same in `fs'` as in `fs`. -/
lemma ofDirectory_eq (place : Place) :
    IgnoreLayer.ofDirectory fs' place = IgnoreLayer.ofDirectory fs place := by
  have hrules {name : String}
      (hname : name ∈ [".ignore", ".gitignore", ".git/info/exclude", ".git"]) :
      IgnoreLayer.rulesAt fs' (IgnoreLayer.absolutePath place name) =
        IgnoreLayer.rulesAt fs (IgnoreLayer.absolutePath place name) := by
    unfold IgnoreLayer.rulesAt
    rw [toOption_read_of_status
      (h.toOption_status hfs (IgnoreLayer.isTest_ignoreFile place hname))]
  rw [IgnoreLayer.ofDirectory_eq, IgnoreLayer.ofDirectory_eq, hrules (by simp), hrules (by simp),
    hrules (by simp), h.present_eq hfs (IgnoreLayer.isTest_ignoreFile place (by simp))]

/-- What a search is after is the same in `fs'` as in `fs`. -/
lemma isWanted_eq (p : Text) : Walk.isWanted fs' p = Walk.isWanted fs p := by
  unfold Walk.isWanted
  cases hp : Path.isTest p with
  | true => simp
  | false =>
    have hfile : fs'.isFile p = fs.isFile p := by
      unfold isFile
      rcases status_eq_or_error (h.toOption_status hfs hp) with
        hsame | ⟨cause, cause', hbefore, hafter⟩
      · rw [hsame]
      · rw [hbefore, hafter]
    rw [hfile]

end FileSystem.WithCompanions

/-! ## Searches -/

namespace Walk

open FileSystem

/-- A directory stands at `place`. -/
def holdsDirectory (fs : FileSystem) (place : Place) : Bool :=
  fs.entry? place == some .directory

/-- What is found at a `name` in the directory at `place`. -/
def visit (fs : FileSystem) (depth : Nat) (surroundings : Surroundings) (path : Text)
    (place : Place) (name : Text) : List Text :=
  let isDirectory := holdsDirectory fs (place ++ [name])
  if surroundings.skips name isDirectory then []
  else if isDirectory then
    let layer := IgnoreLayer.ofDirectory fs (place ++ [name])
    below fs depth (surroundings.enter layer name) (Path.join path name) (place ++ [name])
  else [Path.join path name]

/-- A search by `below` visits the names of a directory. -/
lemma below_eq_visit (fs : FileSystem) (depth : Nat) (surroundings : Surroundings) (path : Text)
    (place : Place) :
    below fs (depth + 1) surroundings path place =
      (fs.names place).flatMap (visit fs depth surroundings path place) := rfl

/-- How many entries lie deeper than `place`. -/
def deeper (fs : FileSystem) (place : Place) : Nat :=
  fs.entries.countP fun e => decide (place.length < e.1.length)

/-- Fewer entries lie deeper than an entry of a directory than lie deeper than the directory, so
`deeper` measures how far a search can still go. -/
lemma deeper_lt {fs : FileSystem} {place : Place} {name : Text} {e : Entry}
    (h : fs.entry? (place ++ [name]) = some e) : deeper fs (place ++ [name]) < deeper fs place := by
  have hlookup : fs.entries.lookup (place ++ [name]) = some e := by
    simpa [List.append_eq_nil_iff, entry?] using h
  obtain ⟨before, after, hentries, -⟩ := List.lookup_eq_some_iff.mp hlookup
  have hmono (es : List (Place × Entry)) :
      es.countP (fun e => decide ((place ++ [name]).length < e.1.length)) ≤
        es.countP fun e => decide (place.length < e.1.length) := by
    apply List.countP_mono_left
    intro e' _ he'
    simp only [List.length_append, decide_eq_true_eq] at he' ⊢
    omega
  unfold deeper
  rw [hentries, List.countP_append, List.countP_append, List.countP_cons, List.countP_cons]
  have hbefore := hmono before
  have hafter := hmono after
  rw [if_neg (by simp), if_pos (by simp)]
  omega

/-- A search to a `depth` at which nothing is left finds all there is. -/
lemma below_succ {fs : FileSystem} {depth : Nat} {place : Place} (h : deeper fs place < depth)
    (surroundings : Surroundings) (path : Text) :
    below fs (depth + 1) surroundings path place = below fs depth surroundings path place := by
  induction depth generalizing surroundings path place with
  | zero => exact absurd h (Nat.not_lt_zero _)
  | succ depth ih =>
    rw [below_eq_visit, below_eq_visit]
    apply List.flatMap_congr
    intro name _
    unfold visit
    cases hdirectory : holdsDirectory fs (place ++ [name]) with
    | false => rfl
    | true =>
      have hentry : fs.entry? (place ++ [name]) = some .directory := by
        simpa [holdsDirectory] using hdirectory
      have hdeeper := deeper_lt hentry
      simp only [if_true]
      rw [ih (by omega)]

/-- The `depth` of a search does not matter once it is enough. -/
lemma below_of_le {fs : FileSystem} {depth depth' : Nat} {place : Place}
    (h : deeper fs place < depth) (hle : depth ≤ depth') (surroundings : Surroundings)
    (path : Text) :
    below fs depth' surroundings path place = below fs depth surroundings path place := by
  induction hle with
  | refl => rfl
  | @step n hn ih => rw [below_succ (Nat.lt_of_lt_of_le h hn), ih]

/-! ## A test file among the entries -/

/-- A file that is written at `place` adds its own name to its directory, or none. -/
lemma exists_names_insert (fs : FileSystem) (place : Place) (content : List UInt8) (d : Place) :
    ∃ added, (fs.insert place (.file content)).names d = fs.names d ++ added ∧
      ∀ name ∈ added, d ++ [name] = place := by
  -- Only the places of entries count.
  let name? (q : Place) : Option Text :=
    q.getLast?.bind fun name => if q.dropLast = d then some name else none
  have hnames (fs : FileSystem) : fs.names d = (fs.entries.map Prod.fst).filterMap name? := by
    rw [List.filterMap_map]
    apply List.filterMap_congr
    rintro ⟨q, e⟩ _
    simp only [name?, Function.comp_apply]
    cases q.getLast? <;> rfl
  cases hlookup : fs.entries.lookup place with
  | some e =>
    refine ⟨[], ?_, fun _ hname => (List.not_mem_nil hname).elim⟩
    have hplaces : (fs.insert place (.file content)).entries.map Prod.fst =
        fs.entries.map Prod.fst := by
      simp only [FileSystem.insert, hlookup, Option.isSome_some, if_true, List.map_map]
      apply List.map_congr_left
      intro old _
      by_cases hold : old.1 = place <;> simp [hold]
    rw [hnames, hnames, hplaces, List.append_nil]
  | none =>
    refine ⟨[place].filterMap name?, ?_, ?_⟩
    · rw [hnames, hnames, ← List.filterMap_append]
      simp [FileSystem.insert, hlookup]
    · intro name hmem
      obtain ⟨q, hq, hname⟩ := List.mem_filterMap.mp hmem
      obtain rfl := List.mem_singleton.mp hq
      obtain ⟨last, hlast, hname⟩ := Option.bind_eq_some_iff.mp hname
      split_ifs at hname with hdropped
      obtain rfl := Option.some.inj hname
      rw [← hdropped, List.dropLast_append_getLast? _ hlast]

section

variable {fs : FileSystem} {directory source : Text} {place : Place} (content : List UInt8)
  (hplace : fs.destination? (Path.companion directory source) = some place)
include hplace

/-- No directory stands at the `place` where a test file is written. -/
lemma holdsDirectory_destination : holdsDirectory fs place = false := by
  unfold holdsDirectory
  rcases replaceable_of_destination? hplace with hnone | ⟨old, hold⟩
  · rw [hnone]
    rfl
  · rw [hold]
    rfl

/-- A test file that is written at `place` is not a directory, nor does it take the place of one. -/
lemma holdsDirectory_insert (q : Place) :
    holdsDirectory (fs.insert place (.file content)) q = holdsDirectory fs q := by
  by_cases hq : q = place
  · rw [hq, holdsDirectory_destination hplace]
    simp [holdsDirectory, entry?_insert fs (replaceable_of_destination? hplace).ne_nil]
  · simp [holdsDirectory, entry?_insert fs (replaceable_of_destination? hplace).ne_nil, hq]

variable (hfs : fs.LinkFree)
include hfs

/-- A test file that is written at `place` is passed over where it is met. -/
lemma isWanted_join_added {d : Place} {name : Text} (hname : d ++ [name] = place) (path : Text)
    (fs' : FileSystem) : isWanted fs' (Path.join path name) = false := by
  have hlast : Path.fileName? (Path.companion directory source) = some name := by
    rw [hfs.fileName?_of_destination? hplace, ← hname, List.getLast?_concat]
  rw [Path.fileName?_companion] at hlast
  obtain rfl := Option.some.inj hlast
  have htest : Path.isTest (Path.join path (Path.companionName source)) = true :=
    Path.isTest_companion path source
  simp [isWanted, htest]

/-- A test file that has been written at `place` is not found by a search, and nothing else changes.
The induction is on the `depth`. -/
lemma filter_below_insert (depth : Nat) (surroundings : Surroundings) (path : Text) (d : Place) :
    (below (fs.insert place (.file content)) depth surroundings path d).filter (isWanted fs) =
      (below fs depth surroundings path d).filter (isWanted fs) := by
  induction depth generalizing surroundings path d with
  | zero => rfl
  | succ depth ih =>
    obtain ⟨added, hadded, hnames⟩ := exists_names_insert fs place content d
    have hlayer := (WithCompanions.refl.write content hplace).ofDirectory_eq hfs
    have hvisited (name : Text) :
        (visit (fs.insert place (.file content)) depth surroundings path d name).filter
          (isWanted fs) = (visit fs depth surroundings path d name).filter (isWanted fs) := by
      simp only [visit, holdsDirectory_insert content hplace, hlayer]
      split
      · rfl
      · split
        · exact ih _ _ _
        · rfl
    have hpassed : added.flatMap (fun name =>
        (visit fs depth surroundings path d name).filter (isWanted fs)) = [] := by
      apply List.flatMap_eq_nil_iff.mpr
      intro name hname
      have hnew := hnames name hname
      simp only [visit, hnew, holdsDirectory_destination hplace, Bool.false_eq_true, if_false]
      split
      · rfl
      · simp [isWanted_join_added hplace hfs hnew]
    rw [below_eq_visit, below_eq_visit, hadded, List.flatMap_append, List.filter_append,
      List.filter_flatMap, List.filter_flatMap, List.filter_flatMap]
    simp only [hvisited, hpassed, List.append_nil]

/-- A search below `root` finds the same before and after a test file is written at `place`. -/
lemma sources_insert {root : Text} {d : Place} (hroot : fs.status root = .ok (d, .directory)) :
    sources (fs.insert place (.file content)) root = sources fs root := by
  have hwith : WithCompanions directory fs (fs.insert place (.file content)) :=
    .write content .refl hplace
  have hroot' := hwith.status_eq hfs hroot (.inr rfl)
  have hwanted : isWanted (fs.insert place (.file content)) = isWanted fs :=
    funext (hwith.isWanted_eq hfs)
  have hsurroundings : Surroundings.atRoot (fs.insert place (.file content)) d =
      Surroundings.atRoot fs d := by
    simp only [Surroundings.atRoot, hwith.ofDirectory_eq hfs]
  have hlength : fs.entries.length ≤ (fs.insert place (.file content)).entries.length := by
    unfold FileSystem.insert
    split <;> simp
  have hdeep : deeper fs d < fs.entries.length + 1 := Nat.lt_succ_of_le List.countP_le_length
  unfold sources entries
  rw [hroot, hroot']
  simp only [hwanted, hsurroundings]
  rw [filter_below_insert content hplace hfs, below_of_le hdeep (Nat.succ_le_succ hlength)]

end

end Walk

/-! ## Collected inputs -/

namespace Inputs

/-- What the argument `p` leads to is a directory, or it is there and is not a test file. -/
def IsProper (fs : FileSystem) (p : Text) : Prop :=
  fs.isDirectory p = true ∨ fs.present p = true ∧ Path.isTest p = false

/-- Something is found through an argument `p` that `IsProper`. -/
lemma IsProper.exists_status {fs : FileSystem} {p : Text} (h : IsProper fs p) :
    ∃ found, fs.status p = .ok found ∧ (Path.isTest p = false ∨ found.2 = .directory) := by
  rcases h with hdirectory | ⟨hpresent, htest⟩
  · unfold FileSystem.isDirectory at hdirectory
    split at hdirectory
    · next d hstatus => exact ⟨_, hstatus, .inr rfl⟩
    · cases hdirectory
  · unfold FileSystem.present at hpresent
    cases hstatus : fs.status p with
    | ok found => exact ⟨found, rfl, .inl htest⟩
    | error cause =>
      rw [hstatus] at hpresent
      cases hpresent

/-- An argument `p` through which a directory is found stands for the source files below it. -/
lemma ofArgument_of_directory {fs : FileSystem} {p : Text} {d : Place}
    (h : fs.status p = .ok (d, .directory)) (excludes : List Wildcard) :
    ofArgument fs excludes p = ofDirectory fs excludes p := by
  simp [ofArgument, FileSystem.isDirectory, h]

/-- An argument `p` through which something else is found stands for itself. -/
lemma ofArgument_of_ne_directory {fs : FileSystem} {p : Text} {d : Place} {e : Entry}
    (h : fs.status p = .ok (d, e)) (he : e ≠ .directory) (excludes : List Wildcard) :
    ofArgument fs excludes p = pure [p] := by
  have hdirectory : fs.isDirectory p = false := by
    unfold FileSystem.isDirectory
    rw [h]
    cases e with
    | directory => exact absurd rfl he
    | file content => rfl
    | link target => rfl
    | fullDevice => rfl
  simp [ofArgument, hdirectory, FileSystem.present, h, Except.toBool]

/-- What `gather` gives depends on the results for each of `as` only. -/
lemma gather_congr {α : Type} {f g : α → Traced (List Text)} {as : List α}
    (h : ∀ a ∈ as, f a = g a) : gather f as = gather g as := by
  induction as with
  | nil => rfl
  | cons a as ih =>
    rw [gather, gather, h a List.mem_cons_self, ih fun b hb => h b (List.mem_cons_of_mem a hb)]

/-- Everything that `gather` gives comes from one of the results. -/
lemma forall_mem_gather {α : Type} {f : α → Traced (List Text)} {as : List α} {P : Text → Prop}
    (h : ∀ a ∈ as, ∀ found, (f a).result = .ok found → ∀ p ∈ found, P p) {files : List Text}
    (hfiles : (gather f as).result = .ok files) : ∀ p ∈ files, P p := by
  induction as generalizing files with
  | nil =>
    cases hfiles
    exact List.forall_mem_nil _
  | cons a as ih =>
    change ((f a).bind fun first => (gather f as).bind fun others =>
      Traced.pure (first ++ others)).result = _ at hfiles
    cases hfirst : (f a).result with
    | error failure => simp [Traced.bind, hfirst] at hfiles
    | ok first =>
      cases hothers : (gather f as).result with
      | error failure => simp [Traced.bind, hfirst, hothers] at hfiles
      | ok others =>
        obtain rfl : first ++ others = files := by
          simpa [Traced.bind, Traced.pure, hfirst, hothers] using hfiles
        intro p hp
        rcases List.mem_append.mp hp with hp | hp
        · exact h a List.mem_cons_self first hfirst p hp
        · exact ih (fun b hb => h b (List.mem_cons_of_mem a hb)) hothers p hp

/-- A search below `root` finds files that are there, and none of them is a test file. -/
lemma of_mem_ofDirectory {fs : FileSystem} {excludes : List Wildcard} {root p : Text}
    {files : List Text} (hfiles : (ofDirectory fs excludes root).result = .ok files)
    (hp : p ∈ files) : Path.isTest p = false ∧ ∃ found, fs.status p = .ok found := by
  cases hfiles
  have hsource := (List.mem_filter.mp (List.mem_mergeSort.mp hp)).1
  have hwanted := (List.mem_filter.mp hsource).2
  simp only [Walk.isWanted, Bool.and_eq_true, Bool.not_eq_true'] at hwanted
  obtain ⟨⟨hfile, -⟩, htest⟩ := hwanted
  refine ⟨htest, ?_⟩
  unfold FileSystem.isFile at hfile
  split at hfile
  · next place content hstatus => exact ⟨_, hstatus⟩
  · cases hfile

/-- The inputs for which proper arguments stand are there, and none of them is a test file. -/
lemma forall_mem_collect {fs : FileSystem} {paths excludes inputs : List Text}
    (hpaths : ∀ p ∈ paths, IsProper fs p)
    (h : (collect fs paths excludes).result = .ok inputs) :
    ∀ p ∈ inputs, Path.isTest p = false ∧ ∃ found, fs.status p = .ok found := by
  unfold collect at h
  cases hexcludes : parseExcludes excludes with
  | error failure =>
    rw [hexcludes] at h
    cases h
  | ok ws =>
    rw [hexcludes] at h
    have hgather : (gather (ofArgument fs ws) paths).result = .ok inputs := h
    refine forall_mem_gather ?_ hgather
    intro argument hargument files hfiles p hp
    obtain ⟨⟨d, e⟩, hfound, hsafe⟩ := (hpaths argument hargument).exists_status
    by_cases he : e = .directory
    · subst he
      rw [ofArgument_of_directory hfound] at hfiles
      exact of_mem_ofDirectory hfiles hp
    · rw [ofArgument_of_ne_directory hfound he] at hfiles
      cases hfiles
      obtain rfl := List.mem_singleton.mp hp
      exact ⟨hsafe.resolve_right he, _, hfound⟩

end Inputs

namespace FileSystem.WithCompanions

variable {directory : Text} {fs fs' : FileSystem} (hfs : fs.LinkFree)
  (h : WithCompanions directory fs fs')
include hfs h

/-- A search below `root` finds the same in `fs'` as in `fs`. -/
lemma sources_eq {root : Text} {d : Place} (hroot : fs.status root = .ok (d, .directory)) :
    Walk.sources fs' root = Walk.sources fs root := by
  induction h with
  | refl => rfl
  | write content before destination ih =>
    have hroot' := before.status_eq hfs hroot (.inr rfl)
    rw [Walk.sources_insert content destination (before.linkFree hfs) hroot', ih]

/-- A proper argument `p` stands for the same inputs in `fs'` as in `fs`. -/
lemma ofArgument_eq (excludes : List Wildcard) {p : Text} (hp : Inputs.IsProper fs p) :
    Inputs.ofArgument fs' excludes p = Inputs.ofArgument fs excludes p := by
  obtain ⟨⟨d, e⟩, hfound, hsafe⟩ := hp.exists_status
  have hfound' := h.status_eq hfs hfound hsafe
  by_cases he : e = .directory
  · subst he
    rw [Inputs.ofArgument_of_directory hfound, Inputs.ofArgument_of_directory hfound']
    unfold Inputs.ofDirectory
    rw [h.sources_eq hfs hfound]
  · rw [Inputs.ofArgument_of_ne_directory hfound he, Inputs.ofArgument_of_ne_directory hfound' he]

/-- Proper arguments `paths` stand for the same inputs in `fs'` as in `fs`. -/
lemma collect_eq {paths : List Text} (hpaths : ∀ p ∈ paths, Inputs.IsProper fs p)
    (excludes : List Text) :
    Inputs.collect fs' paths excludes = Inputs.collect fs paths excludes := by
  unfold Inputs.collect
  congr 1
  funext excludes
  exact Inputs.gather_congr fun p hp => h.ofArgument_eq hfs excludes (hpaths p hp)

end FileSystem.WithCompanions

end RouteStubs
