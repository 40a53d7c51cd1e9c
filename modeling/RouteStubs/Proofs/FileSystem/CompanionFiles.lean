import RouteStubs.Proofs.FileSystem.LinkFree

/-!
# File systems with more test files

What does not change when test files are written to a directory, in a file system without links:
what is found through the paths of other files and of directories, where files are written, and why
a test file cannot be written. The last of these is not clear for files of any kind, since a file
that is written can get in the way of another one; but test files all lie directly in one directory.
-/

namespace RouteStubs

namespace Path

/-- The name of a test file can be a part of a path: it is not empty, has no slash and is neither
`.` nor `..`. -/
lemma companionName_plain (source : Text) :
    companionName source ≠ [] ∧ '/' ∉ companionName source ∧ companionName source ≠ ['.'] ∧
      companionName source ≠ ['.', '.'] ∧ (companionName source).getLast? = some 'o' := by
  obtain ⟨stem, hstem, hname⟩ := exists_companionName_eq source
  have hending : testSuffix ++ '.' :: sourceExtension = lit "_test.g" ++ ['o'] := by decide
  have hslash : '/' ∉ testSuffix ++ '.' :: sourceExtension := by decide
  have hlength : 2 < (companionName source).length := by
    rw [hname, List.append_assoc, List.length_append]
    exact Nat.lt_of_lt_of_le (by decide) (Nat.le_add_left _ _)
  refine ⟨?_, ?_, ?_, ?_, ?_⟩
  · intro h
    simp [h] at hlength
  · rw [hname, List.append_assoc, List.mem_append]
    exact fun h => h.elim hstem hslash
  · intro h
    simp [h] at hlength
  · intro h
    simp [h] at hlength
  · rw [hname, List.append_assoc, hending, ← List.append_assoc, List.getLast?_concat]

/-- The path of a test file has the parts of its `directory` and then its own name. -/
lemma parts_companion (directory source : Text) :
    parts (companion directory source) = parts directory ++ [companionName source] :=
  parts_join directory (companionName_plain source).1 (companionName_plain source).2.1

lemma isAbsolute_companionName (source : Text) : isAbsolute (companionName source) = false :=
  isAbsolute_of_not_mem (companionName_plain source).2.1

/-- The path of a test file is absolute exactly if that of its `directory` is. -/
lemma isAbsolute_companion (directory source : Text) :
    isAbsolute (companion directory source) = isAbsolute directory :=
  isAbsolute_join directory (companionName_plain source).2.1

/-- The path of a test file does not end with a slash. -/
lemma getLast?_companion (directory source : Text) :
    (companion directory source).getLast? = some 'o' := by
  have hlast := (companionName_plain source).2.2.2.2
  unfold companion join
  rw [isAbsolute_companionName source]
  simp only [Bool.false_eq_true, if_false]
  split
  · rw [List.getLast?_append, hlast]
    rfl
  · rw [List.getLast?_append, List.getLast?_cons, hlast]
    rfl

end Path

namespace FileSystem

/-- The steps to a test file are the parts of its `directory` and then its own name. -/
lemma steps_companion (directory source : Text) :
    steps (Path.companion directory source) =
      Path.parts directory ++ [Path.companionName source] := by
  rw [steps, Path.getLast?_companion, Path.parts_companion]
  simp

/-! ## Steps to a directory -/

/-- Without links, a `walk` leads on to `name` only from a directory. -/
lemma LinkFree.walk_concat {fs : FileSystem} (hfs : fs.LinkFree) (followLast : Bool) (links : Nat)
    (here : Place) (path : List Text) (name : Text) :
    fs.walk followLast links here (path ++ [name]) =
      match fs.walk followLast links here path with
      | .ok (.occupied directory .directory) => fs.walk followLast links directory [name]
      | .ok (.occupied _ _) => .error .notDirectory
      | .ok (.vacant _) => .error .notFound
      | .error cause => .error cause := by
  induction path generalizing here with
  | nil =>
    have hhere : fs.walk followLast links here [] = .ok (.occupied here .directory) := by rw [walk]
    rw [List.nil_append, hhere]
  | cons step path ih =>
    rw [List.cons_append]
    by_cases hdot : step = ['.']
    · rw [walk, if_pos hdot, ih, walk, if_pos hdot]
    · by_cases hdots : step = ['.', '.']
      · rw [walk, if_neg hdot, if_pos hdots, ih, walk, if_neg hdot, if_pos hdots]
      · by_cases hlong : maxName < Text.byteLength step
        · rw [walk, if_neg hdot, if_neg hdots, if_pos hlong, walk, if_neg hdot, if_neg hdots,
            if_pos hlong]
        · rw [walk_name _ _ _ _ hdot hdots hlong, walk_name _ _ _ _ hdot hdots hlong]
          cases hentry : fs.entry? (here ++ [step]) with
          | none => cases path <;> rfl
          | some e =>
            cases e with
            | directory => exact ih _
            | link target => exact absurd hentry (hfs _ target)
            | file content => cases path <;> rfl
            | fullDevice => cases path <;> rfl

/-- Without links, the last step to `name` fails only if the name is too long. -/
lemma LinkFree.eq_nameTooLong_of_walk {fs : FileSystem} (hfs : fs.LinkFree) {followLast : Bool}
    {links : Nat} {here : Place} {name : Text} (hdot : name ≠ ['.']) (hdots : name ≠ ['.', '.'])
    {cause : SystemError} (h : fs.walk followLast links here [name] = .error cause) :
    cause = .nameTooLong := by
  by_cases hlong : maxName < Text.byteLength name
  · rw [walk, if_neg hdot, if_neg hdots, if_pos hlong] at h
    cases h
    rfl
  · rw [walk_name _ _ _ _ hdot hdots hlong] at h
    cases hentry : fs.entry? (here ++ [name]) with
    | none => simp [hentry] at h
    | some e =>
      rw [hentry] at h
      cases e with
      | directory =>
        rw [walk] at h
        cases h
      | link target => exact absurd hentry (hfs _ target)
      | file content => simp at h
      | fullDevice => simp at h

/-- Without links, a `walk` to a test file goes by way of its `directory`. -/
lemma LinkFree.walk_companion {fs : FileSystem} (hfs : fs.LinkFree) (followLast : Bool)
    (links : Nat) (here : Place) (directory source : Text) :
    fs.walk followLast links (origin here (Path.companion directory source))
        (steps (Path.companion directory source)) =
      match fs.walk followLast links (origin here directory) (Path.parts directory) with
      | .ok (.occupied place .directory) =>
        fs.walk followLast links place [Path.companionName source]
      | .ok (.occupied _ _) => .error .notDirectory
      | .ok (.vacant _) => .error .notFound
      | .error cause => .error cause := by
  rw [steps_companion, hfs.walk_concat, origin, Path.isAbsolute_companion, ← origin]

/-- Without links, a test file has a destination only if `directory` leads to a directory `d`, and
then it lies in `d`. -/
lemma LinkFree.exists_directory_of_destination? {fs : FileSystem} (hfs : fs.LinkFree)
    {directory source : Text} {place : Place}
    (h : fs.destination? (Path.companion directory source) = some place) :
    ∃ d, fs.walk true maxLinks (origin fs.workingDirectory directory) (Path.parts directory) =
      .ok (.occupied d .directory) := by
  obtain ⟨target, htarget⟩ : ∃ target,
      fs.resolve true (Path.companion directory source) = .ok target := by
    rcases destination?_eq_some_iff.mp h with h | ⟨content, h⟩
    · exact ⟨_, h⟩
    · exact ⟨_, h⟩
  unfold resolve at htarget
  split_ifs at htarget
  rw [hfs.walk_companion] at htarget
  split at htarget
  · next d hwalk => exact ⟨d, hwalk⟩
  · cases htarget
  · cases htarget
  · cases htarget

/-- When a test file has been written at `place`, the path of the test file of `source'` fails with
the same cause as before, or it leads to the same place, which holds what `afterWrite` says. -/
lemma LinkFree.resolve_companion_insert {fs : FileSystem} (hfs : fs.LinkFree)
    {directory source : Text} {place : Place}
    (h : fs.destination? (Path.companion directory source) = some place) (content : List UInt8)
    (source' : Text) :
    (∃ cause, fs.resolve true (Path.companion directory source') = .error cause ∧
        (fs.insert place (.file content)).resolve true (Path.companion directory source') =
          .error cause) ∨
      ∃ target, fs.resolve true (Path.companion directory source') = .ok target ∧
        (fs.insert place (.file content)).resolve true (Path.companion directory source') =
          .ok (target.afterWrite place content) := by
  have hreplaceable := replaceable_of_destination? h
  have hfs' := hfs.insert hreplaceable content
  rcases resolve_insert hreplaceable content (Path.companion directory source') with
    ⟨cause, cause', hbefore, hafter⟩ | hfound
  · refine .inl ⟨cause, hbefore, ?_⟩
    suffices hsame : cause' = cause by rw [hafter, hsame]
    obtain ⟨d, hd⟩ := hfs.exists_directory_of_destination? h
    have hd' : (fs.insert place (.file content)).walk true maxLinks
        (origin fs.workingDirectory directory) (Path.parts directory) =
          .ok (.occupied d .directory) := by
      have hwalk := walk_insert hreplaceable content true maxLinks
        (origin fs.workingDirectory directory) (Path.parts directory)
      rw [hd] at hwalk
      revert hwalk
      cases (fs.insert place (.file content)).walk true maxLinks
        (origin fs.workingDirectory directory) (Path.parts directory) with
      | error cause => intro hwalk; cases hwalk
      | ok target => intro hwalk; exact congrArg Except.ok (Option.some.inj hwalk)
    obtain ⟨-, -, hdot, hdots, -⟩ := Path.companionName_plain source'
    unfold resolve at hbefore hafter
    split_ifs at hbefore hafter
    · cases hbefore
      cases hafter
      rfl
    · cases hbefore
      cases hafter
      rfl
    · cases hbefore
      cases hafter
      rfl
    · rw [hfs.walk_companion, hd] at hbefore
      rw [workingDirectory_insert, hfs'.walk_companion, hd'] at hafter
      rw [hfs.eq_nameTooLong_of_walk hdot hdots hbefore,
        hfs'.eq_nameTooLong_of_walk hdot hdots hafter]
  · exact .inr hfound

/-- When a test file has been written at `place`, `create` fails for the test file of `source'` with
the same cause as before. -/
lemma LinkFree.create_companion_insert {fs : FileSystem} (hfs : fs.LinkFree)
    {directory source : Text} {place : Place}
    (h : fs.destination? (Path.companion directory source) = some place) (content : List UInt8)
    {source' : Text} {cause : SystemError}
    (hcause : fs.create (Path.companion directory source') = .error cause) :
    (fs.insert place (.file content)).create (Path.companion directory source') =
      .error cause := by
  unfold create at hcause ⊢
  rcases hfs.resolve_companion_insert h content source' with
    ⟨cause', hbefore, hafter⟩ | ⟨target, hbefore, hafter⟩
  · rw [hbefore] at hcause
    rw [hafter]
    exact hcause
  · rw [hbefore] at hcause
    rw [hafter]
    cases target with
    | vacant q => cases hcause
    | occupied q e =>
      cases e with
      | directory => exact hcause
      | file old => cases hcause
      | link target => cases hcause
      | fullDevice => cases hcause

/-- A path `p` that leads to a device still leads there after a write at `place`. -/
lemma resolve_fullDevice_insert {fs : FileSystem} {place : Place} (h : fs.Replaceable place)
    (content : List UInt8) {p : Text} {q : Place}
    (hdevice : fs.resolve true p = .ok (.occupied q .fullDevice)) :
    (fs.insert place (.file content)).resolve true p = .ok (.occupied q .fullDevice) := by
  rcases resolve_insert h content p with ⟨cause, cause', hbefore, -⟩ | ⟨target, hbefore, hafter⟩
  · rw [hdevice] at hbefore
    cases hbefore
  · obtain rfl : target = .occupied q .fullDevice := Except.ok.inj (hbefore.symm.trans hdevice)
    exact hafter

/-- No file is written through a path `p` to a directory. -/
lemma destination?_eq_none_of_status {fs : FileSystem} {p : Text} {found : Place × Entry}
    (h : fs.status p = .ok found) (hdirectory : found.2 = .directory) :
    fs.destination? p = none := by
  obtain ⟨place, e⟩ := found
  obtain rfl : e = .directory := hdirectory
  unfold status at h
  unfold destination?
  split at h
  · next hresolve =>
    cases h
    rw [hresolve]
  · cases h
  · cases h

/-! ## Test files that have been written -/

/-- The file system is `fs` after test files have been written to `directory`, one after the other.
-/
inductive WithCompanions (directory : Text) (fs : FileSystem) : FileSystem → Prop
  | refl : WithCompanions directory fs fs
  | write {fs' : FileSystem} {source : Text} {place : Place} (content : List UInt8)
      (before : WithCompanions directory fs fs')
      (destination : fs'.destination? (Path.companion directory source) = some place) :
      WithCompanions directory fs (fs'.insert place (.file content))

namespace WithCompanions

variable {directory : Text} {fs fs' : FileSystem}

/-- Where files are written by `destination?` is the same in `fs'` as in `fs`. -/
lemma destination?_eq (h : WithCompanions directory fs fs') (p : Text) :
    fs'.destination? p = fs.destination? p := by
  induction h with
  | refl => rfl
  | write content before destination ih =>
    rw [destination?_insert (replaceable_of_destination? destination), ih]

/-- How much files can take is the same in `fs'` as in `fs`. -/
lemma room?_eq (h : WithCompanions directory fs fs') : fs'.room? = fs.room? := by
  induction h with
  | refl => rfl
  | write content before destination ih => rw [room?_insert, ih]

/-- A path `p` to a device leads there in `fs'` as in `fs`. -/
lemma resolve_fullDevice (h : WithCompanions directory fs fs') {p : Text} {place : Place}
    (hdevice : fs.resolve true p = .ok (.occupied place .fullDevice)) :
    fs'.resolve true p = .ok (.occupied place .fullDevice) := by
  induction h with
  | refl => exact hdevice
  | write content before destination ih =>
    exact resolve_fullDevice_insert (replaceable_of_destination? destination) content ih

variable (hfs : fs.LinkFree)
include hfs

/-- There are no links in `fs'` if there are none in `fs`. -/
lemma linkFree (h : WithCompanions directory fs fs') : fs'.LinkFree := by
  induction h with
  | refl => exact hfs
  | write content before destination ih =>
    exact ih.insert (replaceable_of_destination? destination) content

/-- What the path `p` leads to is the same in `fs'` as in `fs`, or there is nothing in both, if `p`
does not have the name of a test file. -/
lemma toOption_status (h : WithCompanions directory fs fs') {p : Text}
    (hp : Path.isTest p = false) : (fs'.status p).toOption = (fs.status p).toOption := by
  induction h with
  | refl => rfl
  | write content before destination ih =>
    rw [status_insert_of_ne (replaceable_of_destination? destination)
      ((before.linkFree hfs).destination?_ne_of_isTest hp destination), ih]

/-- What is `found` in `fs` through the path `p` is found in `fs'`, if it is a directory or if `p`
does not have the name of a test file. -/
lemma status_eq (h : WithCompanions directory fs fs') {p : Text} {found : Place × Entry}
    (hfound : fs.status p = .ok found) (hp : Path.isTest p = false ∨ found.2 = .directory) :
    fs'.status p = .ok found := by
  induction h with
  | refl => exact hfound
  | @write fs' source place content before destination ih =>
    have hother : fs'.destination? p ≠ some place := by
      rcases hp with hp | hp
      · exact (before.linkFree hfs).destination?_ne_of_isTest hp destination
      · rw [destination?_eq_none_of_status ih hp]
        exact nofun
    have hsame := status_insert_of_ne (replaceable_of_destination? destination) hother content
    rcases status_eq_or_error hsame with hsame | ⟨cause, -, hcause, -⟩
    · rw [hsame, ih]
    · rw [ih] at hcause
      cases hcause

/-- Why the test file of `source` cannot be created is the same in `fs'` as in `fs`. -/
lemma create_eq_error (h : WithCompanions directory fs fs') {source : Text} {cause : SystemError}
    (hcause : fs.create (Path.companion directory source) = .error cause) :
    fs'.create (Path.companion directory source) = .error cause := by
  induction h with
  | refl => exact hcause
  | write content before destination ih =>
    exact (before.linkFree hfs).create_companion_insert destination content ih

end WithCompanions

end FileSystem

end RouteStubs
