import Mathlib
import RouteStubs.Inputs.Walk
import RouteStubs.Proofs.FileSystem.CompanionFiles
import RouteStubs.Proofs.Run.Sessions

/-!
# Where test files go

The path of a test file is that of the directory it is written to and one name more. Whatever the
source file is called, that name is neither empty nor a way back to another directory, and it is
recognised as the name of a test file, which is why no search finds a test file. Nor is it ever the
name of the source file: what follows the stem begins with a dot in the one and with an underscore
in the other. So where names tell files apart, a source file outlives its test file.
-/

namespace RouteStubs

namespace Path

/-! ## The name of the source file -/

/-- The parts of a text `before` and `after` its last dot make it up. -/
lemma eq_of_splitAtLastDot? {t before after : Text}
    (h : splitAtLastDot? t = some (before, after)) : t = before ++ '.' :: after := by
  unfold splitAtLastDot? at h
  split at h
  · next d rest hdrop =>
    obtain rfl : d = '.' := by
      have hhead := List.head?_dropWhile_not (· != '.') t.reverse
      simpa [hdrop] using hhead
    simp only [Option.some.injEq, Prod.mk.injEq] at h
    obtain ⟨rfl, rfl⟩ := h
    have hwhole : t.reverse.takeWhile (· != '.') ++ '.' :: rest = t.reverse := by
      rw [← hdrop, List.takeWhile_append_dropWhile]
    calc t = t.reverse.reverse := (List.reverse_reverse t).symm
      _ = (t.reverse.takeWhile (· != '.') ++ '.' :: rest).reverse := by rw [hwhole]
      _ = rest.reverse ++ '.' :: (t.reverse.takeWhile (· != '.')).reverse := by simp
  · cases h

/-- The name of a test file is made from the `name` of its source file: what comes before the last
dot, the suffix and the extension. -/
lemma companionName_eq {source name : Text} (h : fileName? source = some name) :
    companionName source =
      ((splitAtLastDot? name).map Prod.fst).getD name ++ testSuffix ++ '.' :: sourceExtension := by
  rw [companionName, h]
  rfl

/-- The test file of `source` has another name than `source`. -/
lemma fileName?_ne_companionName (source : Text) :
    fileName? source ≠ some (companionName source) := by
  intro h
  have hname := companionName_eq h
  cases hsplit : splitAtLastDot? (companionName source) with
  | none =>
    -- Nothing is cut off, so the name would be longer than itself.
    rw [hsplit] at hname
    have hlength := congrArg List.length hname
    simp at hlength
  | some pair =>
    obtain ⟨before, after⟩ := pair
    rw [hsplit, eq_of_splitAtLastDot? hsplit, List.append_assoc] at hname
    have hrest : '.' :: after = testSuffix ++ '.' :: sourceExtension :=
      List.append_cancel_left hname
    have hending : testSuffix ++ '.' :: sourceExtension = '_' :: lit "test.go" := by decide
    rw [hending] at hrest
    simp at hrest

/-! ## One component more -/

/-- The path of a test file has one component more than that of its `directory`. -/
lemma components_companion (directory source : Text) :
    components (companion directory source) =
      components directory ++ [.normal (companionName source)] := by
  obtain ⟨hne, hslash, hdot, hdots, -⟩ := companionName_plain source
  exact components_join directory ⟨hne, hslash, hdot, hdots⟩

/-- A path `p` with the name of a test file is one for which `isTest` holds. -/
lemma isTest_of_fileName? {p source : Text} (h : fileName? p = some (companionName source)) :
    isTest p = true := by
  have hname : fileName? p = fileName? (companion [] source) := by rw [h, fileName?_companion]
  rw [isTest_eq_of_fileName?_eq hname, isTest_companion]

/-- The name of a test file is a path for which `isTest` holds. -/
lemma isTest_companionName (source : Text) : isTest (companionName source) = true := by
  have hjoin : companion [] source = companionName source := by
    simp [companion, join, isAbsolute_companionName]
  rw [← hjoin, isTest_companion]

end Path

/-- No path among `Walk.sources` has the name of a test file. -/
lemma Walk.fileName?_ne_of_mem_sources {fs : FileSystem} {root p : Text}
    (h : p ∈ Walk.sources fs root) (source : Text) :
    Path.fileName? p ≠ some (Path.companionName source) := by
  intro hname
  have hwanted := (List.mem_filter.mp h).2
  simp [Walk.isWanted, Path.isTest_of_fileName? hname] at hwanted

/-! ## The source file beside its test file -/

/-- The test file of `source` is not written where `source` leads. -/
lemma FileSystem.LinkFree.destination?_source_ne {fs : FileSystem} (hfs : fs.LinkFree)
    {directory source : Text} {place : Place}
    (h : fs.destination? (Path.companion directory source) = some place) :
    fs.destination? source ≠ some place := by
  intro hsame
  apply Path.fileName?_ne_companionName source
  rw [hfs.fileName?_of_destination? hsame, ← hfs.fileName?_of_destination? h,
    Path.fileName?_companion]

/-- What can be read through a path `p` to another place is still read after a write at `place`. -/
lemma FileSystem.read_insert_of_ne {fs : FileSystem} {p : Text} {place : Place}
    {content bytes : List UInt8} (hplace : fs.Replaceable place)
    (hp : fs.destination? p ≠ some place) (h : fs.read p = .ok bytes) :
    (fs.insert place (.file content)).read p = .ok bytes := by
  have hsame := toOption_read_of_status (status_insert_of_ne hplace hp content)
  rw [h] at hsame
  cases hafter : (fs.insert place (.file content)).read p with
  | ok found => simpa [hafter, Except.toOption] using hsame
  | error cause => simp [hafter, Except.toOption] at hsame

namespace Generator

/-- If `writeCompanion` succeeds, it leaves `fs` alone or it puts the test file at its destination.
-/
lemma fs_writeCompanion {fs fs' : FileSystem} {found : Classification} {source : Text}
    {a : Accessor} {directory : Text} {output? : Option Text}
    (h : (writeCompanion fs found source a directory).result = .ok (output?, fs')) :
    fs' = fs ∨ ∃ place, fs.destination? (Path.companion directory source) = some place ∧
      fs' = fs.insert place (.file (Text.encode (renderStub found source a))) := by
  by_cases hhandlers : found.handlers = []
  · have hempty : found.isEmpty = true := by simpa [Classification.isEmpty] using hhandlers
    simp only [writeCompanion, hempty, if_true] at h
    cases h
    exact .inl rfl
  · cases hplace : fs.destination? (Path.companion directory source) with
    | some place =>
      by_cases htakes : fs.Takes place (Text.encode (renderStub found source a))
      · rw [writeCompanion_of_takes hhandlers a hplace htakes] at h
        cases h
        exact .inr ⟨place, rfl, rfl⟩
      · obtain ⟨room, hroom, hlt⟩ := FileSystem.exists_spare?_of_not_takes htakes
        rw [writeCompanion_of_spare? hhandlers a hplace hroom hlt] at h
        cases h
    | none =>
      rcases FileSystem.create_of_destination?_eq_none hplace with
        ⟨cause, hcreate⟩ | ⟨place, hdevice⟩
      · rw [writeCompanion_of_error hhandlers a hcreate] at h
        cases h
      · rw [writeCompanion_of_fullDevice hhandlers a hdevice] at h
        cases h

end Generator

/-- The test file of a source file lies directly in the directory to which it is written, under a
name that leads nowhere else. It has the name of a test file, so that no search finds it, and never
the name of the source file, so that writing it leaves the source file as it is. -/
theorem companion_apart_from_sources (directory source : Text) :
    (Path.components (Path.companion directory source) =
        Path.components directory ++ [.normal (Path.companionName source)] ∧
      Path.isAbsolute (Path.companionName source) = false ∧
      '/' ∉ Path.companionName source ∧ Path.companionName source ≠ lit "..") ∧
    (Path.isTest (Path.companionName source) = true ∧
      ∀ (fs : FileSystem) (root p : Text), p ∈ Walk.sources fs root →
        Path.fileName? p ≠ some (Path.companionName source)) ∧
    (Path.fileName? source ≠ some (Path.companionName source) ∧
      ∀ (fs fs' : FileSystem) (found : Classification) (a : Accessor) (output? : Option Text)
        (content : List UInt8), fs.LinkFree →
        (Generator.writeCompanion fs found source a directory).result = .ok (output?, fs') →
        fs.read source = .ok content → fs'.read source = .ok content) := by
  obtain ⟨-, hslash, -, hdots, -⟩ := Path.companionName_plain source
  refine ⟨⟨?_, ?_, hslash, hdots⟩, ⟨?_, ?_⟩, ⟨?_, ?_⟩⟩
  · exact Path.components_companion directory source
  · exact Path.isAbsolute_companionName source
  · exact Path.isTest_companionName source
  · intro fs root p hp
    exact Walk.fileName?_ne_of_mem_sources hp source
  · exact Path.fileName?_ne_companionName source
  · intro fs fs' found a output? content hfs hwritten hread
    rcases Generator.fs_writeCompanion hwritten with rfl | ⟨place, hplace, rfl⟩
    · exact hread
    · apply FileSystem.read_insert_of_ne (FileSystem.replaceable_of_destination? hplace)
      · exact hfs.destination?_source_ne hplace
      · exact hread

/-- The name of a source file can be nothing but its extension, as that of `a/.go` is. -/
theorem companion_apart_from_dotfile :
    let fs := FileSystem.withOneHandler [[lit "a"]] [[lit "a", lit ".go"], [lit "a", lit "x.go"]]
    let fs' := fs.insert [lit "a", lit "_test.go"]
      (.file (Text.encode (Generator.renderStub oneHandlerFound (lit "a/.go") .standard)))
    lit "a/x.go" ∈ Walk.sources fs (lit "a") ∧ fs.LinkFree ∧
      (Generator.writeCompanion fs oneHandlerFound (lit "a/.go") .standard (lit "a")).result =
        .ok (some (lit "a/_test.go"), fs') ∧
      fs.read (lit "a/.go") = .ok (Text.encode oneHandler) ∧
      Path.fileName? (lit "a/x.go") ≠ some (lit "_test.go") ∧
      fs'.read (lit "a/.go") = .ok (Text.encode oneHandler) := by
  intro fs fs'
  have hsources : Walk.sources fs (lit "a") = [lit "a/x.go"] := by cbv
  have hmem : lit "a/x.go" ∈ Walk.sources fs (lit "a") := by simp [hsources]
  have hfs : fs.LinkFree := by
    apply FileSystem.linkFree_of_entries
    simp [fs, FileSystem.withOneHandler]
  have hplace : fs.destination? (lit "a/_test.go") = some [lit "a", lit "_test.go"] := by cbv
  have hcompanion : Path.companion (lit "a") (lit "a/.go") = lit "a/_test.go" := by decide
  have hroom : fs.Unlimited := fun _ _ => rfl
  have hwritten : (Generator.writeCompanion fs oneHandlerFound (lit "a/.go") .standard
      (lit "a")).result = .ok (some (lit "a/_test.go"), fs') := by
    rw [Generator.writeCompanion_of_takes handlers_oneHandlerFound .standard
      (hcompanion ▸ hplace) (hroom.takes _ _), hcompanion]
    rfl
  have hread : fs.read (lit "a/.go") = .ok (Text.encode oneHandler) := by cbv
  obtain ⟨-, ⟨-, hfound⟩, ⟨-, hkept⟩⟩ := companion_apart_from_sources (lit "a") (lit "a/.go")
  exact ⟨hmem, hfs, hwritten, hread, hfound fs (lit "a") (lit "a/x.go") hmem,
    hkept fs fs' oneHandlerFound .standard _ _ hfs hwritten hread⟩

end RouteStubs
