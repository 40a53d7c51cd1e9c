import RouteStubs.Proofs.FileSystem.Writing
import RouteStubs.Proofs.Path.Companions

/-!
# File systems without links

Without links, the last name of a path is the last name of the place to which it leads, unless this
is a directory. Paths that lead to the same file therefore have the same name, and a source file
that is not itself a test file is never where a test file is written.

A path can also be followed by recursion on its steps alone, as long as it meets no link.
-/

namespace RouteStubs.FileSystem

/-- No entry of `fs` is a link. -/
def LinkFree (fs : FileSystem) : Prop :=
  ∀ place target, fs.entry? place ≠ some (.link target)

/-- Only what is listed among the `entries` can be a link. -/
lemma linkFree_of_entries {fs : FileSystem}
    (h : ∀ e ∈ fs.entries, ∀ target, e.2 ≠ .link target) : fs.LinkFree := by
  intro place target hlink
  unfold entry? at hlink
  split at hlink
  · simp at hlink
  · obtain ⟨before, after, hentries, -⟩ := List.lookup_eq_some_iff.mp hlink
    exact h (place, .link target) (by simp [hentries]) target rfl

/-- Writing a file at `place` makes no link. -/
lemma LinkFree.insert {fs : FileSystem} (h : fs.LinkFree) {place : Place}
    (hplace : fs.Replaceable place) (content : List UInt8) :
    (fs.insert place (.file content)).LinkFree := by
  intro q target
  rw [entry?_insert fs hplace.ne_nil]
  split
  · simp
  · exact h q target

/-! ## Paths that meet no link -/

/-- Follows steps from `here` to a file or a directory, or to where nothing stands. A link is not
followed. -/
def walkPlainly? (fs : FileSystem) (here : Place) : List Text → Option Target
  | [] => some (.occupied here .directory)
  | step :: more =>
    if step = ['.'] then walkPlainly? fs here more
    else if step = ['.', '.'] then walkPlainly? fs here.dropLast more
    else if maxName < Text.byteLength step then none
    else
      match fs.entry? (here ++ [step]) with
      | some .directory => walkPlainly? fs (here ++ [step]) more
      | some (.file content) =>
        if more.isEmpty then some (.occupied (here ++ [step]) (.file content)) else none
      | none => if more.isEmpty then some (.vacant (here ++ [step])) else none
      | _ => none

/-- Steps for which `walkPlainly?` finds a target lead to the same one by `walk`, whatever is done
with links. -/
lemma walk_of_walkPlainly? {fs : FileSystem} {here : Place} {path : List Text} {target : Target}
    (h : fs.walkPlainly? here path = some target) (followLast : Bool) (links : Nat) :
    fs.walk followLast links here path = .ok target := by
  fun_induction fs.walkPlainly? here path with
  | case1 here =>
    cases h
    rw [walk]
  | case2 here more ih => rw [walk, if_pos rfl, ih h]
  | case3 here more hdot ih => rw [walk, if_neg hdot, if_pos rfl, ih h]
  | case4 => cases h
  | case5 here step more hdot hdots hlong hentry ih =>
    rw [walk_name _ _ _ _ hdot hdots hlong, hentry, ih h]
  | case6 here step more hdot hdots hlong content hentry hlast =>
    cases h
    rw [walk_name _ _ _ _ hdot hdots hlong, hentry]
    exact if_pos hlast
  | case7 => cases h
  | case8 here step more hdot hdots hlong hentry hlast =>
    cases h
    rw [walk_name _ _ _ _ hdot hdots hlong, hentry]
    exact if_pos hlast
  | case9 => cases h
  | case10 => cases h

/-- Where the path `p` leads if it meets no link. -/
def resolvePlainly? (fs : FileSystem) (p : Text) : Option Target :=
  if p.contains '\x00' || p.isEmpty || decide (maxPath < Text.byteLength p) then none
  else fs.walkPlainly? (origin fs.workingDirectory p) (steps p)

/-- A path for which `resolvePlainly?` finds a target leads to the same one by `resolve`, whatever
is done with links. -/
lemma resolve_of_resolvePlainly? {fs : FileSystem} {p : Text} {target : Target}
    (h : fs.resolvePlainly? p = some target) (followLast : Bool) :
    fs.resolve followLast p = .ok target := by
  unfold resolvePlainly? at h
  split_ifs at h with hbad
  simp only [Bool.or_eq_true, decide_eq_true_eq, not_or] at hbad
  obtain ⟨⟨hnul, hempty⟩, hlong⟩ := hbad
  rw [resolve, if_neg hnul, if_neg hempty, if_neg hlong]
  exact walk_of_walkPlainly? h followLast maxLinks

lemma status_of_resolvePlainly? {fs : FileSystem} {p : Text} {place : Place} {e : Entry}
    (h : fs.resolvePlainly? p = some (.occupied place e)) : fs.status p = .ok (place, e) := by
  rw [status, resolve_of_resolvePlainly? h]

lemma isFile_of_resolvePlainly? {fs : FileSystem} {p : Text} {place : Place} {content : List UInt8}
    (h : fs.resolvePlainly? p = some (.occupied place (.file content))) : fs.isFile p = true := by
  rw [isFile, status_of_resolvePlainly? h]

lemma destination?_of_resolvePlainly? {fs : FileSystem} {p : Text} {place : Place}
    (h : fs.resolvePlainly? p = some (.vacant place)) : fs.destination? p = some place := by
  rw [destination?, resolve_of_resolvePlainly? h]

/-! ## Names -/

/-- The place to which a path leads. -/
def Target.place : Target → Place
  | .vacant place => place
  | .occupied place _ => place

/-- Without links, the last step of a `walk` to something other than a directory is its name. -/
lemma LinkFree.getLast?_of_walk {fs : FileSystem} (hfs : fs.LinkFree) {followLast : Bool}
    {links : Nat} {here : Place} {path : List Text} {target : Target}
    (h : fs.walk followLast links here path = .ok target)
    (hfile : ∀ q, target ≠ .occupied q .directory) :
    ∃ name, path.getLast? = some name ∧ name ≠ ['.'] ∧ name ≠ ['.', '.'] ∧
      target.place.getLast? = some name := by
  fun_induction fs.walk followLast links here path with
  | case1 links here =>
    cases h
    exact absurd rfl (hfile here)
  | case2 links here more ih =>
    obtain ⟨name, hname, hrest⟩ := ih h
    exact ⟨name, by simp [List.getLast?_cons, hname], hrest⟩
  | case3 links here more _ ih =>
    obtain ⟨name, hname, hrest⟩ := ih h
    exact ⟨name, by simp [List.getLast?_cons, hname], hrest⟩
  | case4 => simp at h
  | case5 links here step more hdot hdots _ q hq hlast =>
    cases h
    obtain rfl : more = [] := by simpa using hlast
    exact ⟨step, rfl, hdot, hdots, by simp [Target.place, q]⟩
  | case6 => simp at h
  | case7 links here step more _ _ _ q hq ih =>
    obtain ⟨name, hname, hrest⟩ := ih h
    exact ⟨name, by simp [List.getLast?_cons, hname], hrest⟩
  | case8 links here step more _ _ _ q link hq => exact absurd hq (hfs q link)
  | case9 here step more _ _ _ q link hq => exact absurd hq (hfs q link)
  | case10 here step more _ _ _ q link hq => exact absurd hq (hfs q link)
  | case11 links here step more hdot hdots _ q e _ _ hq hlast =>
    cases h
    obtain rfl : more = [] := by simpa using hlast
    exact ⟨step, rfl, hdot, hdots, by simp [Target.place, q]⟩
  | case12 => simp at h

/-- Without links, a path `p` through which a file can be written has the name of the file. -/
lemma LinkFree.fileName?_of_destination? {fs : FileSystem} (hfs : fs.LinkFree) {p : Text}
    {place : Place} (h : fs.destination? p = some place) :
    Path.fileName? p = place.getLast? := by
  obtain ⟨target, hresolve, hfile, rfl⟩ : ∃ target, fs.resolve true p = .ok target ∧
      (∀ q, target ≠ .occupied q .directory) ∧ target.place = place := by
    rcases destination?_eq_some_iff.mp h with h | ⟨content, h⟩
    · exact ⟨_, h, by simp, rfl⟩
    · exact ⟨_, h, by simp, rfl⟩
  unfold resolve at hresolve
  split_ifs at hresolve
  obtain ⟨name, hname, hdot, hdots, hplace⟩ := hfs.getLast?_of_walk hresolve hfile
  -- A slash at the end would make the last step one to a directory.
  have hparts : (Path.parts p).getLast? = some name := by
    unfold steps at hname
    split at hname
    · rw [List.getLast?_concat] at hname
      exact absurd (Option.some.inj hname).symm hdot
    · rwa [List.append_nil] at hname
  rw [hplace, Path.fileName?_eq_some hparts hdot hdots]

/-- Without links, a path `p` with the name of no test file does not lead to the `place` of the test
file of `source`. -/
lemma LinkFree.destination?_ne_of_isTest {fs : FileSystem} (hfs : fs.LinkFree)
    {directory source p : Text} {place : Place} (hp : Path.isTest p = false)
    (h : fs.destination? (Path.companion directory source) = some place) :
    fs.destination? p ≠ some place := by
  intro hsame
  have hname : Path.fileName? p = Path.fileName? (Path.companion directory source) :=
    (hfs.fileName?_of_destination? hsame).trans (hfs.fileName?_of_destination? h).symm
  rw [Path.isTest_eq_of_fileName?_eq hname, Path.isTest_companion] at hp
  simp at hp

end RouteStubs.FileSystem
