import Mathlib.Data.List.Induction
import RouteStubs.Proofs.FileSystem.Writing

/-!
# Writing again what has been written

Several writes, one after the other, leave at each place what was written there last. Once all the
places are occupied, writing changes entries where they stand and adds none, so that doing the same
writes a second time leaves the list of entries as it is, also where one place is written to more
than once.
-/

namespace RouteStubs.FileSystem

/-- Puts the entries `ws` at their places, one after the other. -/
def insertAll (fs : FileSystem) (ws : List (Place × Entry)) : FileSystem :=
  ws.foldl (fun fs w => fs.insert w.1 w.2) fs

@[simp] lemma insertAll_nil (fs : FileSystem) : fs.insertAll [] = fs := rfl

@[simp] lemma insertAll_cons (fs : FileSystem) (w : Place × Entry) (ws : List (Place × Entry)) :
    fs.insertAll (w :: ws) = (fs.insert w.1 w.2).insertAll ws := rfl

lemma insertAll_append (fs : FileSystem) (ws ws' : List (Place × Entry)) :
    fs.insertAll (ws ++ ws') = (fs.insertAll ws).insertAll ws' :=
  List.foldl_append

@[simp] lemma workingDirectory_insertAll (fs : FileSystem) (ws : List (Place × Entry)) :
    (fs.insertAll ws).workingDirectory = fs.workingDirectory := by
  induction ws generalizing fs with
  | nil => rfl
  | cons w ws ih => rw [insertAll_cons, ih, workingDirectory_insert]

@[simp] lemma room?_insertAll (fs : FileSystem) (ws : List (Place × Entry)) :
    (fs.insertAll ws).room? = fs.room? := by
  induction ws generalizing fs with
  | nil => rfl
  | cons w ws ih => rw [insertAll_cons, ih, room?_insert]

/-- The entry `old` after the writes `ws`: what is written to its place last, or the entry itself.
-/
def overwrite (ws : List (Place × Entry)) (old : Place × Entry) : Place × Entry :=
  (old.1, (ws.reverse.lookup old.1).getD old.2)

/-- To `overwrite` by `ws ++ ws'` is to do so by `ws` and then by `ws'`: the last write decides. -/
lemma overwrite_append (ws ws' : List (Place × Entry)) (old : Place × Entry) :
    overwrite (ws ++ ws') old = overwrite ws' (overwrite ws old) := by
  simp only [overwrite, List.reverse_append, List.lookup_append]
  cases ws'.reverse.lookup old.1 <;> rfl

lemma overwrite_singleton_of_ne {w old : Place × Entry} (h : old.1 ≠ w.1) :
    overwrite [w] old = old := by
  obtain ⟨place, e⟩ := w
  have hne : (old.1 == place) = false := by simpa using h
  simp [overwrite, List.lookup_cons, hne]

lemma overwrite_singleton_of_eq {w old : Place × Entry} (h : old.1 = w.1) :
    overwrite [w] old = w := by
  obtain ⟨place, e⟩ := w
  simp [overwrite, h]

/-- A write `w` to an occupied place changes the entries there and adds none. -/
lemma entries_insert_of_isSome {fs : FileSystem} {w : Place × Entry}
    (h : (fs.entries.lookup w.1).isSome = true) :
    (fs.insert w.1 w.2).entries = fs.entries.map (overwrite [w]) := by
  simp only [insert, h, if_true]
  apply List.map_congr_left
  intro old _
  by_cases hold : old.1 = w.1
  · rw [if_pos hold, overwrite_singleton_of_eq hold]
  · rw [if_neg hold, overwrite_singleton_of_ne hold]

/-- To `overwrite` entries leaves the same places occupied. -/
lemma isSome_lookup_overwrite (ws entries : List (Place × Entry)) (q : Place) :
    ((entries.map (overwrite ws)).lookup q).isSome = (entries.lookup q).isSome := by
  induction entries with
  | nil => rfl
  | cons old entries ih =>
    obtain ⟨place, e⟩ := old
    rw [List.map_cons, overwrite, List.lookup_cons, List.lookup_cons]
    cases q == place with
    | true => rfl
    | false => exact ih

/-- Writes `ws` to occupied places change the entries there and add none. -/
lemma entries_insertAll_of_isSome {fs : FileSystem} {ws : List (Place × Entry)}
    (h : ∀ w ∈ ws, (fs.entries.lookup w.1).isSome = true) :
    (fs.insertAll ws).entries = fs.entries.map (overwrite ws) := by
  induction ws generalizing fs with
  | nil =>
    rw [insertAll_nil]
    exact (List.map_id _).symm
  | cons w ws ih =>
    have hfirst := entries_insert_of_isSome (h w List.mem_cons_self)
    have hothers : ∀ w' ∈ ws, ((fs.insert w.1 w.2).entries.lookup w'.1).isSome = true := by
      intro w' hw'
      rw [hfirst, isSome_lookup_overwrite]
      exact h w' (List.mem_cons_of_mem w hw')
    rw [insertAll_cons, ih hothers, hfirst, List.map_map]
    apply List.map_congr_left
    intro old _
    exact (overwrite_append [w] ws old).symm

/-- After the writes `ws` their places are occupied, by what was written there last. -/
lemma insertAll_settled (fs : FileSystem) (ws : List (Place × Entry)) :
    (∀ w ∈ ws, ((fs.insertAll ws).entries.lookup w.1).isSome = true) ∧
      ∀ old ∈ (fs.insertAll ws).entries, overwrite ws old = old := by
  induction ws using List.reverseRecOn with
  | nil => exact ⟨fun _ hw => (List.not_mem_nil hw).elim, fun _ _ => rfl⟩
  | append_singleton ws w ih =>
    obtain ⟨hoccupied, hlast⟩ := ih
    have hall : fs.insertAll (ws ++ [w]) = (fs.insertAll ws).insert w.1 w.2 :=
      insertAll_append fs ws [w]
    rw [hall]
    cases hlookup : (fs.insertAll ws).entries.lookup w.1 with
    | some e =>
      have hsome : ((fs.insertAll ws).entries.lookup w.1).isSome = true := by rw [hlookup]; rfl
      rw [entries_insert_of_isSome hsome]
      constructor
      · intro w' hw'
        rw [isSome_lookup_overwrite]
        rcases List.mem_append.mp hw' with hw' | hw'
        · exact hoccupied w' hw'
        · rw [List.mem_singleton.mp hw', hsome]
      · intro old hold
        obtain ⟨before, hbefore, rfl⟩ := List.mem_map.mp hold
        rw [overwrite_append]
        by_cases hplace : before.1 = w.1
        · rw [overwrite_singleton_of_eq hplace]
          exact overwrite_singleton_of_eq rfl
        · rw [overwrite_singleton_of_ne hplace, hlast before hbefore,
            overwrite_singleton_of_ne hplace]
    | none =>
      have hentries : ((fs.insertAll ws).insert w.1 w.2).entries =
          (fs.insertAll ws).entries ++ [w] := by
        simp [insert, hlookup]
      rw [hentries]
      constructor
      · intro w' hw'
        rw [List.lookup_append, Option.isSome_or]
        rcases List.mem_append.mp hw' with hw' | hw'
        · rw [hoccupied w' hw', Bool.true_or]
        · obtain rfl := List.mem_singleton.mp hw'
          simp
      · intro old hold
        rw [overwrite_append]
        rcases List.mem_append.mp hold with hold | hold
        · have hplace : old.1 ≠ w.1 := by
            intro hsame
            have hnone := List.lookup_eq_none_iff.mp hlookup old hold
            simp [hsame] at hnone
          rw [hlast old hold, overwrite_singleton_of_ne hplace]
        · obtain rfl := List.mem_singleton.mp hold
          exact overwrite_singleton_of_eq rfl

/-- Doing the writes `ws` a second time changes nothing. -/
lemma insertAll_insertAll (fs : FileSystem) (ws : List (Place × Entry)) :
    (fs.insertAll ws).insertAll ws = fs.insertAll ws := by
  obtain ⟨hoccupied, hlast⟩ := insertAll_settled fs ws
  have hentries : ((fs.insertAll ws).insertAll ws).entries = (fs.insertAll ws).entries := by
    rw [entries_insertAll_of_isSome hoccupied, List.map_congr_left hlast]
    exact List.map_id _
  have hworking : ((fs.insertAll ws).insertAll ws).workingDirectory =
      (fs.insertAll ws).workingDirectory := workingDirectory_insertAll _ ws
  have hroom : ((fs.insertAll ws).insertAll ws).room? = (fs.insertAll ws).room? :=
    room?_insertAll _ ws
  revert hentries hworking hroom
  generalize (fs.insertAll ws).insertAll ws = twice
  generalize fs.insertAll ws = once
  obtain ⟨entries, working, room?⟩ := twice
  rintro rfl rfl rfl
  rfl

end RouteStubs.FileSystem
