import MapperGen.Proofs.Files.FileSystem
import MapperGen.Proofs.Traversal

/-!
# File maps

A file system in which paths are resolved to places and files are a map from places to contents:
what is read depends on the content at the place alone, and a write neither moves any path nor takes
away the right to write again. Stores are file maps, because a write adds no directory to them.
-/

namespace MapperGen

open Utf8 (Bytes)

/-- A file system that is a map from resolved paths to contents. A path is resolved whether or not
there is a file at its place. -/
class FileMap (σ : Type) [FileAccess (StateM σ)] extends FileSystem σ where
  resolve : σ → Text → Option Place
  readFile_eq_ok_iff : ∀ (path : Text) (s : σ) (bytes : Bytes),
    ((FileAccess.readFile path : StateM σ (Except FileFault Bytes)).run s).1 = .ok bytes ↔
      ∃ p, resolve s path = some p ∧ content s p = some bytes
  isFile_iff : ∀ (path : Text) (s : σ),
    ((FileAccess.isFile path : StateM σ Bool).run s).1 = true ↔
      ∃ p, resolve s path = some p ∧ (content s p).isSome
  resolve_of_place : ∀ (path : Text) (s : σ) (p : Place),
    place s path = some p → resolve s path = some p
  resolve_of_writeFile : ∀ (path : Text) (bytes : Bytes) (s s' : σ),
    (FileAccess.writeFile path bytes : StateM σ (Except FileFault Unit)).run s = (.ok (), s') →
      ∀ other, resolve s' other = resolve s other
  writeFile_again : ∀ (path : Text) (bytes : Bytes) (s s' : σ),
    (FileAccess.writeFile path bytes : StateM σ (Except FileFault Unit)).run s = (.ok (), s') →
      ∃ s'', (FileAccess.writeFile path bytes : StateM σ (Except FileFault Unit)).run s' =
        (.ok (), s'')

namespace Store

/-! ### Directories -/

/-- The places of the files. -/
def places (s : Store) : List Place := s.files.map Prod.fst

theorem isDirectory_iff {s : Store} {place : Place} :
    s.isDirectory place = true ↔ place <+: s.workingDirectory ∨
      ∃ file ∈ s.places, place <+: file ∧ file.length ≠ place.length := by
  simp [isDirectory, liesBelow, liesWithin, places]

/-- What lies above a directory is one. -/
theorem isDirectory_of_prefix {s : Store} {above place : Place} (habove : above <+: place)
    (h : s.isDirectory place = true) : s.isDirectory above = true := by
  rw [isDirectory_iff] at h ⊢
  rcases h with h | ⟨file, hfile, hplace, hlength⟩
  · exact .inl (habove.trans h)
  · have hle := hplace.length_le
    have hle' := habove.length_le
    exact .inr ⟨file, hfile, habove.trans hplace, by omega⟩

theorem workingDirectory_put (s : Store) (place : Place) (content : Bytes) :
    (s.put place content).workingDirectory = s.workingDirectory := by
  rw [put]
  split <;> rfl

theorem places_put (s : Store) (place : Place) (content : Bytes) :
    (s.put place content).places = s.places ∨
      (s.put place content).places = s.places ++ [place] := by
  rw [put]
  split
  · left
    rw [places, places, List.map_map]
    refine List.map_congr_left fun f _ => ?_
    rw [Function.comp_apply]
    split <;> rfl
  · right
    simp [places]

/-- The stores have the same directories, so they lead paths to the same places. -/
structure SameDirectories (s s' : Store) : Prop where
  isDirectory : ∀ q, s'.isDirectory q = s.isDirectory q
  workingDirectory : s'.workingDirectory = s.workingDirectory

/-- A file that is put into a directory makes no other directory. -/
theorem sameDirectories_put {s : Store} {directory : Place} (name : Text) (content : Bytes)
    (h : s.isDirectory directory = true) :
    SameDirectories s (s.put (directory ++ [name]) content) := by
  refine ⟨fun q => ?_, workingDirectory_put s _ content⟩
  have habove (hfront : q <+: directory ++ [name])
      (hlength : (directory ++ [name]).length ≠ q.length) : s.isDirectory q = true := by
    rcases List.prefix_concat_iff.mp hfront with rfl | hfront
    · exact absurd rfl hlength
    · exact isDirectory_of_prefix hfront h
  rw [Bool.eq_iff_iff, isDirectory_iff, workingDirectory_put]
  rcases places_put s (directory ++ [name]) content with hplaces | hplaces
  · rw [hplaces, ← isDirectory_iff]
  · rw [hplaces]
    constructor
    · rintro (hworking | ⟨file, hfile, hfront, hlength⟩)
      · exact isDirectory_iff.mpr (.inl hworking)
      · rcases List.mem_append.mp hfile with hfile | hfile
        · exact isDirectory_iff.mpr (.inr ⟨file, hfile, hfront, hlength⟩)
        · obtain rfl := List.mem_singleton.mp hfile
          exact habove hfront hlength
    · intro hq
      rcases isDirectory_iff.mp hq with hworking | ⟨file, hfile, hfront⟩
      · exact .inl hworking
      · exact .inr ⟨file, List.mem_append_left _ hfile, hfront⟩

/-! ### Following paths -/

/-- A path is followed through directories only. -/
theorem isDirectory_of_descend {s : Store} {place directory : Place} {names : List Text}
    (hplace : s.isDirectory place = true) (h : s.descend place names = .ok directory) :
    s.isDirectory directory = true := by
  induction names generalizing place with
  | nil =>
    obtain rfl := Except.ok.inj h
    exact hplace
  | cons name names ih =>
    rw [descend] at h
    split at h
    · cases h
    · next next hnext =>
      split at h
      · next hdirectory => exact ih hdirectory h
      · split at h <;> cases h

theorem isDirectory_of_follow {s : Store} {path : Text} {target : Target}
    (h : s.follow path = .ok target) : s.isDirectory target.directory = true := by
  rw [follow] at h
  split at h
  · cases h
  split at h
  · cases h
  split at h
  · cases h
  · obtain ⟨directory, hdescend, rfl⟩ := map_eq_ok_iff.mp h
    refine isDirectory_of_descend ?_ hdescend
    rw [isDirectory_iff]
    split <;> simp

/-- Where a path leads, whether or not there is a file. -/
def resolve? (s : Store) (path : Text) : Option Place :=
  match s.follow path with
  | .error _ => none
  | .ok target =>
    match child target.directory target.name with
    | .error _ => none
    | .ok place => if target.slash && !s.isDirectory place then none else some place

theorem resolve?_eq_some_iff {s : Store} {path : Text} {place : Place} :
    s.resolve? path = some place ↔ ∃ target, s.follow path = .ok target ∧
      child target.directory target.name = .ok place ∧
      (target.slash = true → s.isDirectory place = true) := by
  constructor
  · intro h
    rw [resolve?] at h
    split at h
    · cases h
    · next target hfollow =>
      split at h
      · cases h
      · next next hchild =>
        split at h
        · cases h
        · next hslash =>
          obtain rfl := Option.some.inj h
          exact ⟨target, hfollow, hchild, by simpa using hslash⟩
  · rintro ⟨target, hfollow, hchild, hslash⟩
    rw [resolve?, hfollow]
    simp only [hchild]
    exact if_neg (by simpa using hslash)

namespace SameDirectories

variable {s s' : Store} (h : SameDirectories s s')
include h

theorem descend_eq_ok_iff {place directory : Place} {names : List Text} :
    s'.descend place names = .ok directory ↔ s.descend place names = .ok directory := by
  induction names generalizing place with
  | nil => rfl
  | cons name names ih =>
    rw [descend, descend]
    cases child place name with
    | error fault => simp
    | ok next =>
      dsimp only
      rw [h.isDirectory next]
      split
      · exact ih
      · split <;> split <;> simp

theorem follow_eq_ok_iff {path : Text} {target : Target} :
    s'.follow path = .ok target ↔ s.follow path = .ok target := by
  rw [follow, follow, h.workingDirectory]
  split
  · rfl
  split
  · rfl
  split
  · rfl
  · simp only [map_eq_ok_iff, h.descend_eq_ok_iff]

theorem resolve?_eq (path : Text) : s'.resolve? path = s.resolve? path := by
  refine Option.ext fun place => ?_
  simp only [resolve?_eq_some_iff, h.follow_eq_ok_iff, h.isDirectory]

end SameDirectories

/-! ### Reading and writing -/

theorem resolve?_of_locate {s : Store} {path : Text} {place : Place}
    (h : s.locate path = .ok place) : s.resolve? path = some place := by
  rw [locate] at h
  split at h
  · cases h
  · next target hfollow =>
    split at h
    · cases h
    · next next hchild =>
      rw [resolve?_eq_some_iff]
      split at h
      · next hdirectory =>
        obtain rfl := Except.ok.inj h
        exact ⟨target, hfollow, hchild, fun _ => hdirectory⟩
      · split at h
        · cases h
        · split at h
          · cases h
          · next hslash =>
            obtain rfl := Except.ok.inj h
            exact ⟨target, hfollow, hchild, fun h => absurd h hslash⟩

theorem locate_of_resolve? {s : Store} {path : Text} {place : Place}
    (h : s.resolve? path = some place) (hcontent : (s.content? place).isSome = true) :
    s.locate path = .ok place := by
  obtain ⟨target, hfollow, hchild, hslash⟩ := resolve?_eq_some_iff.mp h
  rw [locate, hfollow]
  simp only [hchild]
  split
  · rfl
  · next hdirectory =>
    rw [if_neg (by simpa [Option.isSome_iff_ne_none] using hcontent),
      if_neg fun h => hdirectory (hslash h)]

theorem read_eq_ok_iff {s : Store} {path : Text} {bytes : Bytes} :
    s.read path = .ok bytes ↔ ∃ p, s.resolve? path = some p ∧ s.content? p = some bytes := by
  constructor
  · intro h
    rw [read] at h
    split at h
    · cases h
    · next place hlocate =>
      split at h
      · next content hcontent =>
        obtain rfl := Except.ok.inj h
        exact ⟨place, resolve?_of_locate hlocate, hcontent⟩
      · cases h
  · rintro ⟨place, hresolve, hcontent⟩
    have hlocate := locate_of_resolve? hresolve (by rw [hcontent]; rfl)
    rw [read, hlocate]
    simp only [hcontent]

theorem isFile_iff {s : Store} {path : Text} :
    s.isFile path = true ↔ ∃ p, s.resolve? path = some p ∧ (s.content? p).isSome = true := by
  constructor
  · intro h
    rw [isFile] at h
    split at h
    · cases h
    · next place hlocate => exact ⟨place, resolve?_of_locate hlocate, h⟩
  · rintro ⟨place, hresolve, hcontent⟩
    rw [isFile, locate_of_resolve? hresolve hcontent]
    exact hcontent

theorem outputPlace_eq_ok_iff {s : Store} {path : Text} {place : Place} :
    s.outputPlace path = .ok place ↔ ∃ target, s.follow path = .ok target ∧
      isRelative target.name = false ∧ target.slash = false ∧
      child target.directory target.name = .ok place ∧ s.isDirectory place = false := by
  constructor
  · intro h
    rw [outputPlace] at h
    split at h
    · cases h
    · next target hfollow =>
      split at h
      · cases h
      · next hname =>
        rw [Bool.or_eq_true, not_or, Bool.not_eq_true, Bool.not_eq_true] at hname
        split at h
        · cases h
        · next next hchild =>
          split at h
          · cases h
          · next hdirectory =>
            obtain rfl := Except.ok.inj h
            exact ⟨target, hfollow, hname.1, hname.2, hchild, by simpa using hdirectory⟩
  · rintro ⟨target, hfollow, hname, hslash, hchild, hdirectory⟩
    rw [outputPlace, hfollow]
    simp only [hname, hslash, hchild, hdirectory]
    rfl

theorem write_eq_ok_iff {s s' : Store} {path : Text} {bytes : Bytes} :
    s.write path bytes = (.ok (), s') ↔
      ∃ place, s.outputPlace path = .ok place ∧ s' = s.put place bytes := by
  rw [write]
  cases s.outputPlace path with
  | error fault => simp
  | ok place => simp [eq_comm]

/-- A name that names something below its directory leads there. -/
theorem eq_concat_of_child {directory place : Place} {name : Text}
    (hname : isRelative name = false) (h : child directory name = .ok place) :
    place = directory ++ [name] := by
  simp only [isRelative, Bool.or_eq_false_iff, beq_eq_false_iff_ne] at hname
  rw [child, hname.1, if_neg (by simp), if_neg hname.2] at h
  split at h
  · cases h
  · exact (Except.ok.inj h).symm

theorem sameDirectories_write {s s' : Store} {path : Text} {bytes : Bytes}
    (h : s.write path bytes = (.ok (), s')) : SameDirectories s s' := by
  obtain ⟨place, hplace, rfl⟩ := write_eq_ok_iff.mp h
  obtain ⟨target, hfollow, hname, -, hchild, -⟩ := outputPlace_eq_ok_iff.mp hplace
  rw [eq_concat_of_child hname hchild]
  exact sameDirectories_put target.name bytes (isDirectory_of_follow hfollow)

theorem SameDirectories.outputPlace_eq_ok_iff {s s' : Store} (h : SameDirectories s s')
    {path : Text} {place : Place} :
    s'.outputPlace path = .ok place ↔ s.outputPlace path = .ok place := by
  simp only [Store.outputPlace_eq_ok_iff, h.follow_eq_ok_iff, h.isDirectory]

end Store

instance : FileMap Store where
  resolve := Store.resolve?
  readFile_eq_ok_iff _ _ _ := Store.read_eq_ok_iff
  isFile_iff _ _ := Store.isFile_iff
  resolve_of_place path s p h := by
    have hplace : s.outputPlace path = .ok p := eq_ok_of_toOption h
    obtain ⟨target, hfollow, -, hslash, hchild, -⟩ := Store.outputPlace_eq_ok_iff.mp hplace
    exact Store.resolve?_eq_some_iff.mpr ⟨target, hfollow, hchild, by simp [hslash]⟩
  resolve_of_writeFile path bytes s s' h other := (Store.sameDirectories_write h).resolve?_eq other
  writeFile_again path bytes s s' h := by
    obtain ⟨place, hplace, -⟩ := Store.write_eq_ok_iff.mp h
    have hagain := (Store.sameDirectories_write h).outputPlace_eq_ok_iff.mpr hplace
    exact ⟨s'.put place bytes, Store.write_eq_ok_iff.mpr ⟨place, hagain, rfl⟩⟩

end MapperGen
