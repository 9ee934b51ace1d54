import Mathlib.Data.List.Infix
import Tablewright.Proofs.Files.Path
import Tablewright.Proofs.Files.Tree

/-! # What writing files touches

Writing a file makes the directories on the way to it and puts its text at the end of its path. Nothing
else in the tree changes, whether or not the file can be written (`footprint_write`), and so it is with a
number of files (`Footprint.trans`). If all paths are those of files directly in one directory, the
changes are the directories on the way to it, itself among them, and files in it
(`Footprint.change_of_isChild`). -/

namespace Tablewright.FileTree

variable {t t' : FileTree} {p : Place} {dir path : String} {paths : List String}

/-! ## Places around a directory -/

/-- Is a place on the way that a path describes, or at its end? -/
def OnWay (t : FileTree) (path : String) (p : Place) : Prop :=
  ∃ ns, ns <+: Path.components path ∧ ns.foldlM t.step (t.start path) = .ok p

instance (t : FileTree) (path : String) (p : Place) : Decidable (t.OnWay path p) :=
  decidable_of_iff
    (∃ ns ∈ (Path.components path).inits, ns.foldlM t.step (t.start path) = .ok p) <| by
      simp only [List.mem_inits, OnWay]

/-- Is a place directly in the directory that a path leads to? -/
def DirectlyIn (t : FileTree) (path : String) (p : Place) : Prop :=
  ∃ above file, (Path.components path).foldlM t.step (t.start path) = .ok above ∧ p = file :: above

/-- A tree that grows starts every path at the same place. -/
theorem Grows.start_eq (h : t.Grows t') (path : String) : t'.start path = t.start path := by
  rw [start, start, h.workingDirectory_eq]

/-- A place on the way of a path is on it in a tree that has grown. -/
theorem Grows.onWay (h : t.Grows t') (hp : t.OnWay path p) : t'.OnWay path p := by
  obtain ⟨ns, hns, hlead⟩ := hp
  refine ⟨ns, hns, ?_⟩
  rw [h.start_eq]
  exact h.foldlM_step_eq_ok hlead

/-- The paths to the directory of a file start where the file's path does. -/
theorem start_of_isChild (t : FileTree) (h : Path.IsChild dir path) : t.start path = t.start dir := by
  rw [start, start, h.isAbsolute_eq]

/-- The way to a file directly in a directory is the way to the directory. -/
theorem onWay_parent_iff (h : Path.IsChild dir path) :
    t.OnWay (Path.parent path) p ↔ t.OnWay dir p := by
  obtain ⟨file, -, hcomponents⟩ := h.components_eq
  have hstart : t.start (Path.parent path) = t.start dir := by
    rw [start, start, Path.isAbsolute_parent, h.isAbsolute_eq]
  rw [OnWay, OnWay, Path.components_parent, hcomponents, List.dropLast_concat, hstart]

/-- A path of a file directly in a directory leads to a place there. -/
theorem directlyIn_of_find_eq_ok (h : Path.IsChild dir path) (hp : t.find path = .ok p) :
    t.DirectlyIn dir p := by
  obtain ⟨file, hfile, hcomponents⟩ := h.components_eq
  obtain ⟨above, habove, rfl⟩ := exists_above_of_find_eq_ok hp hcomponents hfile
  rw [start_of_isChild t h] at habove
  exact ⟨above, file, habove, rfl⟩

/-! ## Footprints -/

/-- **What has changed in a tree while files were written to some paths**: directories that were made on
the way to a file, and files at the end of a path. All directories that were there still are. -/
structure Footprint (paths : List String) (t t' : FileTree) : Prop extends Grows t t' where
  change : ∀ p, t'.node? p ≠ t.node? p →
    (t'.node? p = some .directory ∧ ∃ path ∈ paths, t'.OnWay (Path.parent path) p) ∨
    (∃ text, t'.node? p = some (.file text)) ∧ ∃ path ∈ paths, t'.find path = .ok p

namespace Footprint

theorem refl (paths : List String) (t : FileTree) : Footprint paths t t :=
  ⟨.refl t, fun _ hp => absurd rfl hp⟩

/-- The footprints of two changes in turn make one footprint. -/
theorem trans {t'' : FileTree} (h : Footprint paths t t') (h' : Footprint paths t' t'') :
    Footprint paths t t'' := by
  refine ⟨h.toGrows.trans h'.toGrows, fun p hp => ?_⟩
  by_cases hlater : t''.node? p = t'.node? p
  · -- the change is one of the earlier ones, and the paths still lead to it
    rw [hlater] at hp ⊢
    refine (h.change p hp).imp ?_ ?_
    · rintro ⟨hnode, path, hpath, hway⟩
      exact ⟨hnode, path, hpath, h'.toGrows.onWay hway⟩
    · rintro ⟨hnode, path, hpath, hfind⟩
      exact ⟨hnode, path, hpath, h'.toGrows.find_eq_ok hfind⟩
  · exact h'.change p hlater

/-- More paths may have been written to. -/
theorem mono {paths' : List String} (h : Footprint paths t t') (hsubset : paths ⊆ paths') :
    Footprint paths' t t' := by
  refine ⟨h.toGrows, fun p hp => (h.change p hp).imp ?_ ?_⟩
  · rintro ⟨hnode, path, hpath, hway⟩
    exact ⟨hnode, path, hsubset hpath, hway⟩
  · rintro ⟨hnode, path, hpath, hfind⟩
    exact ⟨hnode, path, hsubset hpath, hfind⟩

/-- Directories that are made on the way to a file are within what writing it may touch. -/
theorem of_growsAlong
    (h : t.GrowsAlong t' (t.start (Path.parent path)) (Path.components (Path.parent path))) :
    Footprint [path] t t' := by
  refine ⟨h.toGrows, fun p hp => .inl ?_⟩
  obtain ⟨ns, hns, hlead⟩ := h.onWay p hp
  rw [← h.toGrows.start_eq] at hlead
  exact ⟨h.node?_eq_directory hp, path, List.mem_singleton.mpr rfl, ns, hns, hlead⟩

/-- A text that is put into a file is within what writing it may touch. -/
theorem of_overwrite {text : String} (h : t.overwrite path text = .ok t') :
    Footprint [path] t t' := by
  obtain ⟨p, hp, hnode, rfl⟩ := overwrite_eq_ok h
  have hgrows := grows_put (.file text) hnode
  refine ⟨hgrows, fun q hq => .inr ?_⟩
  obtain rfl : q = p := Classical.not_not.mp fun hne => hq (node?_put_of_ne t _ hne)
  have htext := text?_eq_some_iff.mp (text?_put_file text hnode)
  exact ⟨⟨text, htext⟩, path, List.mem_singleton.mpr rfl, hgrows.find_eq_ok hp⟩

/-- **If all files are directly in one directory**, directories are made on the way to it only, and all
else that has changed are files in it. -/
theorem change_of_isChild (h : Footprint paths t t') (hpaths : ∀ path ∈ paths, Path.IsChild dir path)
    (hp : t'.node? p ≠ t.node? p) :
    (t'.node? p = some .directory ∧ t'.OnWay dir p) ∨
      (∃ text, t'.node? p = some (.file text)) ∧ t'.DirectlyIn dir p := by
  refine (h.change p hp).imp ?_ ?_
  · rintro ⟨hnode, path, hpath, hway⟩
    exact ⟨hnode, (onWay_parent_iff (hpaths path hpath)).mp hway⟩
  · rintro ⟨hnode, path, hpath, hfind⟩
    exact ⟨hnode, directlyIn_of_find_eq_ok (hpaths path hpath) hfind⟩

end Footprint

/-- **Writing a file touches the way to it and its place**, whether or not it can be written. -/
theorem footprint_write (t : FileTree) (path text : String) :
    Footprint [path] t (t.write path text).2 := by
  have hway := Footprint.of_growsAlong (growsAlong_makeDirectory t (Path.parent path))
  rw [write]
  split
  case h_1 fault t₁ hmade =>
    rw [hmade] at hway
    exact hway
  case h_2 t₁ hmade =>
    rw [hmade] at hway
    split
    case h_1 fault hput => exact hway
    case h_2 t₂ hput => exact hway.trans (.of_overwrite hput)

end Tablewright.FileTree
