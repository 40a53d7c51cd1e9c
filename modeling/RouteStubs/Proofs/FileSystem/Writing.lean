import Mathlib.Tactic.Lemma
import Mathlib.Tactic.SplitIfs
import RouteStubs.FileSystem.Basic

/-!
# Writing files

Writing a file changes what stands at one place and nothing else. A place can be written to if
nothing stands there, or a file; a directory or a link is never replaced, so that every path leads
to the same place before and after a write. What differs is only that the place is occupied, and by
what.
-/

namespace RouteStubs

namespace FileSystem

/-! ## Entries -/

/-- Replacing the entry at `place` by `e` is seen only there. -/
lemma lookup_replace (entries : List (Place × Entry)) (place q : Place) (e : Entry) :
    (entries.map fun old => if old.1 = place then (place, e) else old).lookup q =
      if q = place then (entries.lookup place).map fun _ => e else entries.lookup q := by
  induction entries with
  | nil => simp
  | cons old entries ih =>
    obtain ⟨old, e'⟩ := old
    by_cases hold : old = place
    · subst hold
      by_cases hq : q = old
      · simp [hq]
      · have hq' : (q == old) = false := by simpa using hq
        simp [List.lookup_cons, hq, hq', ih]
    · by_cases hq : q = old
      · subst hq
        simp [hold]
      · have hq' : (q == old) = false := by simpa using hq
        have hold' : (place == old) = false := by simpa using Ne.symm hold
        simp [List.lookup_cons, hold, hq', hold', ih]

/-- After `insert`, the entry `e` stands at `place`, and elsewhere stands what stood there before.
-/
lemma entry?_insert (fs : FileSystem) {place : Place} (hplace : place ≠ []) (e : Entry)
    (q : Place) : entry? (fs.insert place e) q = if q = place then some e else fs.entry? q := by
  unfold entry? insert
  by_cases hroot : q = []
  · simp [hroot, hplace.symm]
  · simp only [hroot, if_false]
    cases hlookup : fs.entries.lookup place with
    | some old => simp [lookup_replace, hlookup]
    | none =>
      by_cases hq : q = place
      · subst hq
        simp [List.lookup_append, hlookup]
      · have hq' : (q == place) = false := by simpa using hq
        simp [List.lookup_append, List.lookup_cons, hq, hq']

@[simp] lemma workingDirectory_insert (fs : FileSystem) (place : Place) (e : Entry) :
    (fs.insert place e).workingDirectory = fs.workingDirectory := rfl

@[simp] lemma room?_insert (fs : FileSystem) (place : Place) (e : Entry) :
    (fs.insert place e).room? = fs.room? := rfl

/-- Where nothing stands at `place`, there is nothing to replace. -/
lemma map_replace_of_lookup_eq_none {entries : List (Place × Entry)} {place : Place}
    (h : entries.lookup place = none) (e : Entry) :
    (entries.map fun old => if old.1 = place then (place, e) else old) = entries := by
  have hne : ∀ old ∈ entries, old.1 ≠ place := by
    intro old hold hsame
    have hnone := List.lookup_eq_none_iff.mp h old hold
    simp [hsame] at hnone
  calc
    entries.map (fun old => if old.1 = place then (place, e) else old) = entries.map id :=
      List.map_congr_left fun old hold => if_neg (hne old hold)
    _ = entries := List.map_id entries

/-- Of two entries `e` and `e'` that are put at the same `place`, the second one counts. -/
lemma insert_insert (fs : FileSystem) (place : Place) (e e' : Entry) :
    insert (fs.insert place e) place e' = fs.insert place e' := by
  have hentries : (insert (fs.insert place e) place e').entries = (fs.insert place e').entries := by
    unfold insert
    cases hlookup : fs.entries.lookup place with
    | some old =>
      simp only [Option.isSome_some, if_true, lookup_replace, hlookup, Option.map_some,
        List.map_map]
      apply List.map_congr_left
      intro old _
      by_cases hold : old.1 = place <;> simp [hold]
    | none =>
      have hlast : (fs.entries ++ [(place, e)]).lookup place = some e := by
        simp [List.lookup_append, hlookup]
      simp [hlast, map_replace_of_lookup_eq_none hlookup]
  simp only [insert] at hentries ⊢
  rw [hentries]

/-- Nothing stands at `place`, or a file does. -/
def Replaceable (fs : FileSystem) (place : Place) : Prop :=
  fs.entry? place = none ∨ ∃ content, fs.entry? place = some (.file content)

/-- The root `[]` is a directory, so it is not `Replaceable`. -/
lemma Replaceable.ne_nil {fs : FileSystem} {place : Place} (h : fs.Replaceable place) :
    place ≠ [] := by
  rintro rfl
  simp [Replaceable, entry?] at h

/-- What stands at `q` and is not a file stands there after a file has been written. -/
lemma Replaceable.entry?_insert_of_ne {fs : FileSystem} {place q : Place} {e : Entry}
    (h : fs.Replaceable place) (hq : fs.entry? q = some e) (he : ∀ c, e ≠ .file c)
    {content : List UInt8} : entry? (fs.insert place (.file content)) q = some e := by
  have hne : q ≠ place := by
    rintro rfl
    rcases h with hnone | ⟨c, hc⟩
    · rw [hnone] at hq
      simp at hq
    · rw [hc] at hq
      exact he c (Option.some.inj hq).symm
  rw [entry?_insert fs h.ne_nil, if_neg hne, hq]

/-! ## Paths -/

/-- A `step` to a name goes on with what stands there. -/
lemma walk_name (fs : FileSystem) (followLast : Bool) (links : Nat) (here : Place) {step : Text}
    (hdot : step ≠ ['.']) (hdots : step ≠ ['.', '.']) (hlong : ¬ maxName < Text.byteLength step)
    (more : List Text) :
    fs.walk followLast links here (step :: more) =
      match fs.entry? (here ++ [step]) with
      | none => if more.isEmpty then .ok (.vacant (here ++ [step])) else .error .notFound
      | some .directory => fs.walk followLast links (here ++ [step]) more
      | some (.link target) =>
        if more.isEmpty && !followLast then .ok (.occupied (here ++ [step]) (.link target))
        else
          match links with
          | 0 => .error .tooManyLinks
          | links + 1 => fs.walk followLast links (origin here target) (steps target ++ more)
      | some e =>
        if more.isEmpty then .ok (.occupied (here ++ [step]) e) else .error .notDirectory := by
  rw [walk, if_neg hdot, if_neg hdots]
  exact if_neg hlong

/-- Where a path leads after `content` has been written at `place`, given where it led before. -/
def Target.afterWrite (place : Place) (content : List UInt8) : Target → Target
  | .vacant q => if q = place then .occupied q (.file content) else .vacant q
  | .occupied q (.file old) => .occupied q (.file (if q = place then content else old))
  | .occupied q e => .occupied q e

/-- Following steps with `walk` leads to the same place before and after a write. Where it fails, it
fails before and after, though the cause may differ: what was missing can now be a file. -/
lemma walk_insert {fs : FileSystem} {place : Place} (h : fs.Replaceable place)
    (content : List UInt8) (followLast : Bool) (links : Nat) (here : Place) (path : List Text) :
    ((fs.insert place (.file content)).walk followLast links here path).toOption =
      (fs.walk followLast links here path).toOption.map (Target.afterWrite place content) := by
  have hentry (q : Place) := entry?_insert fs h.ne_nil (.file content) q
  fun_induction fs.walk followLast links here path with
  | case1 links here => rw [walk]; rfl
  | case2 links here more ih => rw [walk, if_pos rfl, ih]
  | case3 links here more hdot ih => rw [walk, if_neg hdot, if_pos rfl, ih]
  | case4 links here step more hdot hdots hlong =>
    rw [walk, if_neg hdot, if_neg hdots, if_pos hlong]
    rfl
  | case5 links here step more hdot hdots hlong q hq hlast =>
    have hnone : fs.entry? (here ++ [step]) = none := hq
    rw [walk_name _ _ _ _ hdot hdots hlong]
    by_cases hplace : here ++ [step] = place
    · simp [hentry, hplace, hlast, q, Target.afterWrite, Except.toOption]
    · simp [hentry, hplace, hnone, hlast, q, Target.afterWrite, Except.toOption]
  | case6 links here step more hdot hdots hlong q hq hlast =>
    have hnone : fs.entry? (here ++ [step]) = none := hq
    rw [walk_name _ _ _ _ hdot hdots hlong]
    by_cases hplace : here ++ [step] = place
    · simp [hentry, hplace, hlast, Except.toOption]
    · simp [hentry, hplace, hnone, hlast, Except.toOption]
  | case7 links here step more hdot hdots hlong q hq ih =>
    rw [walk_name _ _ _ _ hdot hdots hlong,
      h.entry?_insert_of_ne (q := here ++ [step]) hq (by simp)]
    exact ih
  | case8 links here step more hdot hdots hlong q target hq hlast =>
    rw [walk_name _ _ _ _ hdot hdots hlong,
      h.entry?_insert_of_ne (q := here ++ [step]) hq (by simp)]
    simp only [hlast, if_true]
    rfl
  | case9 here step more hdot hdots hlong q target hq hlast =>
    rw [walk_name _ _ _ _ hdot hdots hlong,
      h.entry?_insert_of_ne (q := here ++ [step]) hq (by simp)]
    simp only [hlast]
    rfl
  | case10 here step more hdot hdots hlong q target hq hlast links ih =>
    rw [walk_name _ _ _ _ hdot hdots hlong,
      h.entry?_insert_of_ne (q := here ++ [step]) hq (by simp)]
    simp only [hlast]
    exact ih
  | case11 links here step more hdot hdots hlong q e hdirectory hlink hq hlast =>
    rw [walk_name _ _ _ _ hdot hdots hlong]
    cases e with
    | directory => exact absurd rfl hdirectory
    | link target => exact absurd rfl (hlink target)
    | fullDevice =>
      rw [h.entry?_insert_of_ne (q := here ++ [step]) hq (by simp)]
      simp only [hlast, if_true]
      rfl
    | file old =>
      have hold : fs.entry? (here ++ [step]) = some (.file old) := hq
      by_cases hplace : here ++ [step] = place
      · simp [hentry, hplace, hlast, q, Target.afterWrite, Except.toOption]
      · simp [hentry, hplace, hold, hlast, q, Target.afterWrite, Except.toOption]
  | case12 links here step more hdot hdots hlong q e hdirectory hlink hq hlast =>
    rw [walk_name _ _ _ _ hdot hdots hlong]
    cases e with
    | directory => exact absurd rfl hdirectory
    | link target => exact absurd rfl (hlink target)
    | fullDevice =>
      rw [h.entry?_insert_of_ne (q := here ++ [step]) hq (by simp)]
      simp only [hlast]
      rfl
    | file old =>
      have hold : fs.entry? (here ++ [step]) = some (.file old) := hq
      by_cases hplace : here ++ [step] = place
      · simp [hentry, hplace, hlast, Except.toOption]
      · simp [hentry, hplace, hold, hlast, Except.toOption]

/-- A path `p` leads to the same place before and after a write, or nowhere before and after. -/
lemma resolve_insert {fs : FileSystem} {place : Place} (h : fs.Replaceable place)
    (content : List UInt8) (p : Text) :
    (∃ cause cause', fs.resolve true p = .error cause ∧
        (fs.insert place (.file content)).resolve true p = .error cause') ∨
      ∃ target, fs.resolve true p = .ok target ∧
        (fs.insert place (.file content)).resolve true p =
          .ok (target.afterWrite place content) := by
  have hsame : ((fs.insert place (.file content)).resolve true p).toOption =
      (fs.resolve true p).toOption.map (Target.afterWrite place content) := by
    unfold resolve
    split_ifs
    · rfl
    · rfl
    · rfl
    · exact walk_insert h content true maxLinks _ _
  cases hbefore : fs.resolve true p with
  | error cause =>
    cases hafter : (fs.insert place (.file content)).resolve true p with
    | error cause' => exact .inl ⟨cause, cause', rfl, rfl⟩
    | ok target => simp [hbefore, hafter, Except.toOption] at hsame
  | ok target =>
    cases hafter : (fs.insert place (.file content)).resolve true p with
    | error cause => simp [hbefore, hafter, Except.toOption] at hsame
    | ok target' =>
      refine .inr ⟨target, rfl, ?_⟩
      simpa [hbefore, hafter, Except.toOption] using hsame

/-- What stands in `fs` at the place to which a path leads is what the target says. Directories are
left out, since the one in which paths begin need not be listed. -/
def Target.Stands (fs : FileSystem) : Target → Prop
  | .vacant q => fs.entry? q = none
  | .occupied _ .directory => True
  | .occupied _ (.link _) => False
  | .occupied q e => fs.entry? q = some e

/-- Following steps, links included, leads to what stands in `fs`, and never to a link. -/
lemma stands_of_walk {fs : FileSystem} {links : Nat} {here : Place} {path : List Text}
    {target : Target} (h : fs.walk true links here path = .ok target) : target.Stands fs := by
  fun_induction fs.walk true links here path with
  | case1 links here => cases h; trivial
  | case2 links here more ih => exact ih h
  | case3 links here more _ ih => exact ih h
  | case4 => simp at h
  | case5 links here step more _ _ _ q hq _ => cases h; exact hq
  | case6 => simp at h
  | case7 links here step more _ _ _ q hq ih => exact ih h
  | case8 links here step more _ _ _ q target' hq hlast => simp at hlast
  | case9 => simp at h
  | case10 here step more _ _ _ q target' hq hlast links ih => exact ih h
  | case11 links here step more _ _ _ q e hdirectory hlink hq hlast =>
    cases e with
    | directory => exact absurd rfl hdirectory
    | link target' => exact absurd rfl (hlink target')
    | fullDevice => cases h; exact hq
    | file content => cases h; exact hq
  | case12 => simp at h

/-- A path that `resolve` finds leads to what stands there. -/
lemma stands_of_resolve {fs : FileSystem} {p : Text} {target : Target}
    (h : fs.resolve true p = .ok target) : target.Stands fs := by
  unfold resolve at h
  split_ifs at h
  exact stands_of_walk h

/-! ## Files that can be written -/

/-- The place of the file that is written through the path `p`: one where a file stands, or where
none is but one can be created. -/
def destination? (fs : FileSystem) (p : Text) : Option Place :=
  match fs.resolve true p with
  | .ok (.vacant place) => some place
  | .ok (.occupied place (.file _)) => some place
  | _ => none

lemma destination?_eq_some_iff {fs : FileSystem} {p : Text} {place : Place} :
    fs.destination? p = some place ↔
      fs.resolve true p = .ok (.vacant place) ∨
        ∃ content, fs.resolve true p = .ok (.occupied place (.file content)) := by
  unfold destination?
  split
  · next q h => simp [h]
  · next q c h => simp [h]
  · next hvacant hoccupied =>
    simp only [reduceCtorEq, false_iff, not_or, not_exists]
    exact ⟨fun h => hvacant _ h, fun c h => hoccupied _ _ h⟩

lemma replaceable_of_destination? {fs : FileSystem} {p : Text} {place : Place}
    (h : fs.destination? p = some place) : fs.Replaceable place := by
  rcases destination?_eq_some_iff.mp h with h | ⟨content, h⟩
  · exact .inl (stands_of_resolve h)
  · exact .inr ⟨content, stands_of_resolve h⟩

/-- Where `p` has a destination, `create` succeeds and leaves an empty file there. -/
lemma create_of_destination? {fs : FileSystem} {p : Text} {place : Place}
    (h : fs.destination? p = some place) :
    fs.create p = .ok (place, fs.insert place (.file [])) := by
  unfold create
  rcases destination?_eq_some_iff.mp h with hvacant | ⟨content, hfile⟩
  · rw [hvacant]
  · rw [hfile]

/-- Where `p` has no destination, `create` fails, or `p` leads to a device that is full. -/
lemma create_of_destination?_eq_none {fs : FileSystem} {p : Text}
    (h : fs.destination? p = none) :
    (∃ cause, fs.create p = .error cause) ∨
      ∃ place, fs.resolve true p = .ok (.occupied place .fullDevice) := by
  unfold create
  cases hresolve : fs.resolve true p with
  | error cause => exact .inl ⟨cause, rfl⟩
  | ok target =>
    cases target with
    | vacant place => simp [destination?, hresolve] at h
    | occupied place e =>
      cases e with
      | directory => exact .inl ⟨.isDirectory, rfl⟩
      | file content => simp [destination?, hresolve] at h
      | link target => exact absurd (stands_of_resolve hresolve) (by simp [Target.Stands])
      | fullDevice => exact .inr ⟨place, rfl⟩

/-- How many bytes the file at `place` can take once it is empty, if there is a limit. -/
def spare? (fs : FileSystem) (place : Place) : Option Nat :=
  fs.room? (fs.insert place (.file [])).entries place

/-- The file at `place` can take all of `content`. -/
def Takes (fs : FileSystem) (place : Place) (content : List UInt8) : Prop :=
  (fs.spare? place).all (content.length ≤ ·) = true

/-- If the file at `place` does not take `content`, then `content` is longer than the room that
there is. -/
lemma exists_spare?_of_not_takes {fs : FileSystem} {place : Place} {content : List UInt8}
    (h : ¬ fs.Takes place content) :
    ∃ room, fs.spare? place = some room ∧ room < content.length := by
  unfold Takes at h
  cases hroom : fs.spare? place with
  | none => simp [hroom] at h
  | some room => exact ⟨room, rfl, by simpa [hroom] using h⟩

/-- Through the path `p` a file with the given `content` can be written, whatever stands elsewhere.
-/
def CanHold (fs : FileSystem) (p : Text) (content : List UInt8) : Prop :=
  ∃ place, fs.destination? p = some place ∧
    ∀ entries, (fs.room? entries place).all (content.length ≤ ·) = true

/-- Whatever is written to a file that can be created, the file takes it: there is no limit at any
place. -/
def Unlimited (fs : FileSystem) : Prop :=
  ∀ entries place, fs.room? entries place = none

lemma Unlimited.takes {fs : FileSystem} (h : fs.Unlimited) (place : Place) (content : List UInt8) :
    fs.Takes place content := by
  simp [Takes, spare?, h _ place]

lemma Unlimited.canHold {fs : FileSystem} (h : fs.Unlimited) {p : Text} {place : Place}
    (hplace : fs.destination? p = some place) (content : List UInt8) : fs.CanHold p content :=
  ⟨place, hplace, fun entries => by simp [h entries place]⟩

lemma Unlimited.insert {fs : FileSystem} (h : fs.Unlimited) (place : Place) (e : Entry) :
    (fs.insert place e).Unlimited := h

/-- What `create` has put at `place` can take as many bytes as `spare?` says. -/
lemma roomAt?_insert {fs : FileSystem} {place : Place} (h : fs.Replaceable place) :
    (fs.insert place (.file [])).roomAt? place = fs.spare? place := by
  simp [roomAt?, entry?_insert fs h.ne_nil, spare?]

/-- What `create` has put at `place` is filled with `content` where it stands. -/
lemma fill_insert {fs : FileSystem} {place : Place} (h : fs.Replaceable place)
    (content : List UInt8) :
    (fs.insert place (.file [])).fill place content = fs.insert place (.file content) := by
  simp [fill, entry?_insert fs h.ne_nil, insert_insert]

/-- Writing does not change `destination?`, that is, which file is written through a path. -/
lemma destination?_insert {fs : FileSystem} {place : Place} (h : fs.Replaceable place)
    (content : List UInt8) (p : Text) :
    (fs.insert place (.file content)).destination? p = fs.destination? p := by
  unfold destination?
  rcases resolve_insert h content p with
    ⟨cause, cause', hbefore, hafter⟩ | ⟨target, hbefore, hafter⟩
  · rw [hbefore, hafter]
  · rw [hbefore, hafter]
    cases target with
    | vacant q => by_cases hq : q = place <;> simp [Target.afterWrite, hq]
    | occupied q e => cases e <;> rfl

/-- What is written through the path `p` is read through it. -/
lemma read_insert {fs : FileSystem} {p : Text} {place : Place}
    (h : fs.destination? p = some place) (content : List UInt8) :
    (fs.insert place (.file content)).read p = .ok content := by
  rcases resolve_insert (replaceable_of_destination? h) content p with
    ⟨cause, cause', hbefore, -⟩ | ⟨target, hbefore, hafter⟩
  · simp [destination?, hbefore] at h
  · have htarget : target.afterWrite place content = .occupied place (.file content) := by
      rcases destination?_eq_some_iff.mp h with hvacant | ⟨old, hold⟩
      · obtain rfl : target = .vacant place := by simpa [hbefore] using hvacant
        simp [Target.afterWrite]
      · obtain rfl : target = .occupied place (.file old) := by simpa [hbefore] using hold
        simp [Target.afterWrite]
    simp [read, status, hafter, htarget]

/-- Through a path `p` to another place the same is found before and after a write, or nothing. -/
lemma status_insert_of_ne {fs : FileSystem} {p : Text} {place : Place}
    (h : fs.Replaceable place) (hp : fs.destination? p ≠ some place) (content : List UInt8) :
    ((fs.insert place (.file content)).status p).toOption = (fs.status p).toOption := by
  unfold status
  rcases resolve_insert h content p with
    ⟨cause, cause', hbefore, hafter⟩ | ⟨target, hbefore, hafter⟩
  · rw [hbefore, hafter]
    rfl
  · have htarget : target.afterWrite place content = target := by
      cases target with
      | vacant q =>
        have hq : q ≠ place := by
          rintro rfl
          exact hp (destination?_eq_some_iff.mpr (.inl hbefore))
        simp [Target.afterWrite, hq]
      | occupied q e =>
        cases e with
        | file old =>
          have hq : q ≠ place := by
            rintro rfl
            exact hp (destination?_eq_some_iff.mpr (.inr ⟨old, hbefore⟩))
          simp [Target.afterWrite, hq]
        | directory => rfl
        | link target => rfl
        | fullDevice => rfl
    rw [hbefore, hafter, htarget]

/-- Where the same is found through `p` in `fs` and `fs'`, or nothing, `status` gives the same
answer or fails in both. -/
lemma status_eq_or_error {fs fs' : FileSystem} {p : Text}
    (h : (fs'.status p).toOption = (fs.status p).toOption) :
    fs'.status p = fs.status p ∨
      ∃ cause cause', fs.status p = .error cause ∧ fs'.status p = .error cause' := by
  cases hbefore : fs.status p with
  | error cause =>
    cases hafter : fs'.status p with
    | error cause' => exact .inr ⟨cause, cause', rfl, rfl⟩
    | ok found => simp [hbefore, hafter, Except.toOption] at h
  | ok found =>
    cases hafter : fs'.status p with
    | error cause => simp [hbefore, hafter, Except.toOption] at h
    | ok found' => exact .inl (by simpa [hbefore, hafter, Except.toOption] using h)

/-- Where the same is found through `p` in `fs` and `fs'`, or nothing, `read` reads the same or
nothing. -/
lemma toOption_read_of_status {fs fs' : FileSystem} {p : Text}
    (h : (fs'.status p).toOption = (fs.status p).toOption) :
    (fs'.read p).toOption = (fs.read p).toOption := by
  unfold read
  rcases status_eq_or_error h with hsame | ⟨cause, cause', hbefore, hafter⟩
  · rw [hsame]
  · rw [hbefore, hafter]
    rfl

end FileSystem

end RouteStubs
