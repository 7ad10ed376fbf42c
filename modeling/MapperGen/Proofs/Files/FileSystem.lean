import MapperGen.Files.Store

/-!
# File systems

What a command may rely on when it reads and writes files: reading changes nothing, a write that
fails changes nothing, and one that succeeds changes the content of one place. When a read or a
write fails is left open, so a file system may refuse for reasons of its own. Stores are file
systems.
-/

namespace MapperGen

open Utf8 (Bytes)

/-- A state that holds files. A path leads to a place, and places have contents. -/
class FileSystem (σ : Type) [FileAccess (StateM σ)] where
  place : σ → Text → Option Place
  content : σ → Place → Option Bytes
  readFile_state : ∀ (path : Text) (s : σ),
    ((FileAccess.readFile path : StateM σ (Except FileFault Bytes)).run s).2 = s
  isFile_state : ∀ (path : Text) (s : σ),
    ((FileAccess.isFile path : StateM σ Bool).run s).2 = s
  writeFile_error : ∀ (path : Text) (bytes : Bytes) (s s' : σ) (fault : FileFault),
    (FileAccess.writeFile path bytes : StateM σ (Except FileFault Unit)).run s =
      (.error fault, s') → s' = s
  writeFile_ok : ∀ (path : Text) (bytes : Bytes) (s s' : σ),
    (FileAccess.writeFile path bytes : StateM σ (Except FileFault Unit)).run s = (.ok (), s') →
      ∃ p, place s path = some p ∧ content s' p = some bytes ∧
        ∀ other, other ≠ p → content s' other = content s other

/-! ### Stores -/

namespace Store

theorem lookup_map_replace {place other : Place} {content : Bytes} {files : List (Place × Bytes)} :
    (files.map fun f => if f.1 = place then (f.1, content) else f).lookup other =
      if other = place then (files.lookup other).map fun _ => content else files.lookup other := by
  induction files with
  | nil => simp
  | cons f files ih =>
    obtain ⟨p, bytes⟩ := f
    by_cases hp : p = place
    · subst hp
      by_cases hother : other = p
      · subst hother
        simp
      · simp [List.lookup_cons, hother, beq_eq_false_iff_ne.mpr hother, ih]
    · by_cases hother : other = p
      · subst hother
        simp [hp]
      · simp [List.lookup_cons, hp, beq_eq_false_iff_ne.mpr hother, ih]

/-- A file that was put has its content, and all other files keep theirs. -/
theorem content?_put (s : Store) (place other : Place) (content : Bytes) :
    (s.put place content).content? other =
      if other = place then some content else s.content? other := by
  rw [put]
  split
  · next hsome =>
    obtain ⟨old, hold⟩ := Option.isSome_iff_exists.mp hsome
    rw [content?] at hold
    rw [content?, content?, lookup_map_replace]
    split
    · next h =>
      subst h
      rw [hold]
      rfl
    · rfl
  · next hnone =>
    rw [Bool.not_eq_true, Option.isSome_eq_false_iff, Option.isNone_iff_eq_none, content?] at hnone
    rw [content?, content?, List.lookup_append]
    split
    · next h =>
      subst h
      rw [hnone]
      simp
    · next h => simp [List.lookup_cons, beq_eq_false_iff_ne.mpr h]

end Store

instance : FileSystem Store where
  place s path := (s.outputPlace path).toOption
  content s p := s.content? p
  readFile_state _ _ := rfl
  isFile_state _ _ := rfl
  writeFile_error path bytes s s' fault h := by
    change s.write path bytes = (.error fault, s') at h
    rw [Store.write] at h
    split at h
    · exact (Prod.mk.inj h).2.symm
    · cases (Prod.mk.inj h).1
  writeFile_ok path bytes s s' h := by
    change s.write path bytes = (.ok (), s') at h
    rw [Store.write] at h
    split at h
    · cases (Prod.mk.inj h).1
    · next place hplace =>
      obtain rfl := (Prod.mk.inj h).2
      refine ⟨place, by rw [hplace]; rfl, ?_, fun other hother => ?_⟩
      · rw [Store.content?_put, if_pos rfl]
      · rw [Store.content?_put, if_neg hother]

end MapperGen
