import Mathlib.Tactic.Lemma
import RouteStubs.Path.Companion

/-!
# Names of test files

The name of a test file is a single component of a path, whatever the source file is called, so that
a test file lies directly in the directory it is written to. And it is recognised as the name of a
test file. Whether a path leads to a test file depends on nothing but the name with which it ends.
-/

namespace RouteStubs.Path

/-! ## Parts and names -/

/-- No part of a text that is split at `c` holds `c`. -/
lemma not_mem_of_mem_splitOn {c : Char} {t part : Text} (h : part ∈ t.splitOn c) : c ∉ part := by
  induction t generalizing part with
  | nil =>
    obtain rfl : part = [] := by simpa using h
    simp
  | cons a t ih =>
    rw [List.splitOn_cons_eq_if_modifyHead] at h
    split at h
    · rcases List.mem_cons.mp h with rfl | h
      · simp
      · exact ih h
    · next hne =>
      cases hsplit : t.splitOn c with
      | nil => exact absurd hsplit (List.splitOn_ne_nil _ _)
      | cons first others =>
        rw [hsplit, List.modifyHead_cons] at h
        rw [hsplit] at ih
        rcases List.mem_cons.mp h with rfl | h
        · have hfirst := ih List.mem_cons_self
          simp only [beq_iff_eq] at hne
          simp [hfirst, Ne.symm hne]
        · exact ih (List.mem_cons_of_mem _ h)

/-- The parts of a path have no slashes. -/
lemma not_mem_of_mem_parts {p part : Text} (h : part ∈ parts p) : '/' ∉ part :=
  not_mem_of_mem_splitOn (List.mem_filter.mp h).1

/-- The parts of a path on both sides of a slash are those of `p` and then those of `q`. -/
lemma parts_append_cons (p q : Text) : parts (p ++ '/' :: q) = parts p ++ parts q := by
  rw [parts, List.splitOn_append_cons_self, List.filter_append, ← parts, ← parts]

/-- A `name` without slashes is a single part. -/
lemma parts_of_not_mem {name : Text} (hne : name ≠ []) (hslash : '/' ∉ name) :
    parts name = [name] := by
  rw [parts, List.splitOn_eq_singleton hslash]
  simp [hne]

/-- A name without slashes does not begin at the root. -/
lemma isAbsolute_of_not_mem {name : Text} (h : '/' ∉ name) : isAbsolute name = false := by
  cases name with
  | nil => rfl
  | cons c name =>
    have hc : c ≠ '/' := by
      rintro rfl
      exact h List.mem_cons_self
    simpa [isAbsolute] using hc

/-- A `name` in the directory `base` begins at the root exactly if `base` does. -/
lemma isAbsolute_join (base : Text) {name : Text} (hslash : '/' ∉ name) :
    isAbsolute (join base name) = isAbsolute base := by
  have hname := isAbsolute_of_not_mem hslash
  rw [join, hname]
  simp only [Bool.false_eq_true, if_false]
  cases base with
  | nil => simpa [isAbsolute] using hname
  | cons c base => split <;> rfl

/-- A `name` in the directory `base` is one more part. -/
lemma parts_join (base : Text) {name : Text} (hne : name ≠ []) (hslash : '/' ∉ name) :
    parts (join base name) = parts base ++ [name] := by
  have hempty : parts [] = [] := by simp [parts]
  rw [join, isAbsolute_of_not_mem hslash]
  simp only [Bool.false_eq_true, if_false]
  by_cases hbase : base = []
  · simp [hbase, hempty, parts_of_not_mem hne hslash]
  · by_cases hlast : base.getLast? = some '/'
    · obtain ⟨front, rfl⟩ := List.getLast?_eq_some_iff.mp hlast
      simp [parts_append_cons, parts_of_not_mem hne hslash, hempty]
    · simp [hbase, hlast, parts_append_cons, parts_of_not_mem hne hslash]

/-- The text `name` can stand in a directory. -/
structure IsName (name : Text) : Prop where
  ne_nil : name ≠ []
  slash_not_mem : '/' ∉ name
  ne_dot : name ≠ ['.']
  ne_dots : name ≠ ['.', '.']

instance (name : Text) : Decidable (IsName name) :=
  decidable_of_iff (name ≠ [] ∧ '/' ∉ name ∧ name ≠ ['.'] ∧ name ≠ ['.', '.'])
    ⟨fun h => ⟨h.1, h.2.1, h.2.2.1, h.2.2.2⟩, fun h => ⟨h.1, h.2, h.3, h.4⟩⟩

/-- A `name` in the directory `base` is one more component. -/
lemma components_join (base : Text) {name : Text} (h : IsName name) :
    components (join base name) = components base ++ [.normal name] := by
  have hdot := h.ne_dot
  have hothers : ((parts base ++ [name]).filter fun part => part != ['.']).map Component.ofPart =
      ((parts base).filter fun part => part != ['.']).map Component.ofPart ++ [.normal name] := by
    simp [hdot, Component.ofPart, h.ne_dots]
  have hhead : ((parts base ++ [name]).head? == some ['.']) = ((parts base).head? == some ['.']) := by
    cases parts base with
    | nil => simpa using hdot
    | cons part others => rfl
  simp only [components, isAbsolute_join base h.slash_not_mem,
    parts_join base h.ne_nil h.slash_not_mem, hothers, hhead]
  split
  · rfl
  · split
    · rfl
    · rfl

/-- A path `p` has the name of its last part, unless this is `.` or `..`. -/
lemma fileName?_eq_some {p name : Text} (h : (parts p).getLast? = some name)
    (hdot : name ≠ ['.']) (hdots : name ≠ ['.', '.']) : fileName? p = some name := by
  obtain ⟨front, hparts⟩ := List.getLast?_eq_some_iff.mp h
  have hlast : ((parts p).filter (· != ['.'])).map Component.ofPart =
      (front.filter (· != ['.'])).map Component.ofPart ++ [.normal name] := by
    simp [hparts, hdot, Component.ofPart, hdots]
  have hcomponents : (components p).getLast? = some (.normal name) := by
    simp only [components, hlast]
    split
    · rw [← List.cons_append, List.getLast?_concat]
    · split
      · rw [← List.cons_append, List.getLast?_concat]
      · rw [List.getLast?_concat]
  rw [fileName?, hcomponents]

/-- The name of a path `p` is one of its parts. -/
lemma mem_parts_of_fileName? {p name : Text} (h : fileName? p = some name) : name ∈ parts p := by
  have hcomponent : Component.normal name ∈ components p := by
    unfold fileName? at h
    split at h
    · next name' hlast =>
      obtain rfl : name' = name := by simpa using h
      exact List.mem_of_getLast? hlast
    · simp at h
  have hpart : Component.normal name ∈
      ((parts p).filter (· != ['.'])).map Component.ofPart := by
    simp only [components] at hcomponent
    split at hcomponent
    · simpa using hcomponent
    · split at hcomponent
      · simpa using hcomponent
      · exact hcomponent
  obtain ⟨part, hmem, hpart⟩ := List.mem_map.mp hpart
  unfold Component.ofPart at hpart
  split at hpart
  · simp at hpart
  · obtain rfl : part = name := by simpa using hpart
    exact (List.mem_filter.mp hmem).1

/-! ## The names of test files -/

/-- A text is split at a dot after which no other comes, into `before` and `after`. -/
lemma splitAtLastDot?_append (before : Text) {after : Text} (h : '.' ∉ after) :
    splitAtLastDot? (before ++ '.' :: after) = some (before, after) := by
  have hmem : ∀ c ∈ after.reverse, (c != '.') = true := by
    intro c hc
    have hne : c ≠ '.' := fun hc' => h (hc' ▸ List.mem_reverse.mp hc)
    simpa using hne
  simp [splitAtLastDot?, List.takeWhile_append_of_pos hmem, List.dropWhile_append_of_pos hmem]

/-- What stands `before` the last dot is a beginning of the text. -/
lemma mem_of_splitAtLastDot? {t before after : Text} (h : splitAtLastDot? t = some (before, after))
    {c : Char} (hc : c ∈ before) : c ∈ t := by
  unfold splitAtLastDot? at h
  split at h
  · next d rest hdrop =>
    simp only [Option.some.injEq, Prod.mk.injEq] at h
    have hsuffix : d :: rest <:+ t.reverse := hdrop ▸ List.dropWhile_suffix _
    have hrest : c ∈ rest := by simpa [← h.1] using hc
    exact List.mem_reverse.mp (hsuffix.subset (List.mem_cons_of_mem _ hrest))
  · simp at h

/-- The name of a test file is a `stem`, the suffix of test files and the extension. -/
lemma exists_companionName_eq (source : Text) :
    ∃ stem, '/' ∉ stem ∧ companionName source = stem ++ testSuffix ++ '.' :: sourceExtension := by
  refine ⟨_, ?_, rfl⟩
  have hname : '/' ∉ (fileName? source).getD [] := by
    cases h : fileName? source with
    | none => simp
    | some name => exact not_mem_of_mem_parts (mem_parts_of_fileName? h)
  cases hsplit : splitAtLastDot? ((fileName? source).getD []) with
  | none => simpa using hname
  | some pair => exact fun hslash => hname (mem_of_splitAtLastDot? hsplit hslash)

/-- The path of a test file has the name `companionName source`. -/
lemma fileName?_companion (directory source : Text) :
    fileName? (companion directory source) = some (companionName source) := by
  obtain ⟨stem, hstem, hname⟩ := exists_companionName_eq source
  have hne : companionName source ≠ [] := by
    rw [hname]
    simp
  have hslash : '/' ∉ companionName source := by
    rw [hname, List.append_assoc, List.mem_append]
    exact fun h => h.elim hstem (by decide)
  -- The name has more characters than a part that stands for a directory.
  have hlength : 2 < (companionName source).length := by
    rw [hname, List.append_assoc, List.length_append]
    exact Nat.lt_of_lt_of_le (by decide) (Nat.le_add_left _ _)
  refine fileName?_eq_some ?_ (fun h => ?_) (fun h => ?_)
  · rw [companion, parts_join directory hne hslash, List.getLast?_concat]
  · simp [h] at hlength
  · simp [h] at hlength

/-- Whether `isTest` holds of a path depends on its name. -/
lemma isTest_eq_of_fileName?_eq {p q : Text} (h : fileName? p = fileName? q) :
    isTest p = isTest q := by
  simp only [isTest, isSource, extension?, stem?, h]

/-- The path of a test file is recognised as one by `isTest`. -/
lemma isTest_companion (directory source : Text) : isTest (companion directory source) = true := by
  obtain ⟨stem, -, hname⟩ := exists_companionName_eq source
  have hsplit : splitExtension (companionName source) =
      (stem ++ testSuffix, some sourceExtension) := by
    have hdot : '.' ∉ sourceExtension := by decide
    rw [hname, splitExtension, splitAtLastDot?_append _ hdot]
    split
    · next h => simp at h
    · next h =>
      have hempty : stem ++ testSuffix = [] := by simpa using congrArg (Option.map Prod.fst) h
      exact absurd (List.append_eq_nil_iff.mp hempty).2 (by decide)
    · next h => simpa [eq_comm] using h
  have hextension : extension? (companion directory source) = some sourceExtension := by
    rw [extension?, fileName?_companion, Option.bind_some, hsplit]
  have hstem : stem? (companion directory source) = some (stem ++ testSuffix) := by
    rw [stem?, fileName?_companion, Option.map_some, hsplit]
  have hsource : isSource (companion directory source) = true := by
    rw [isSource, hextension]
    decide
  rw [isTest, hsource, hstem]
  simp

end RouteStubs.Path
