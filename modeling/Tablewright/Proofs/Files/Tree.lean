import Tablewright.Files.Tree
import Tablewright.Proofs.Lists

/-! # Writing into a file tree

A file that is written stands at the place to which its path leads, with its text, and stays there
through all that is written later, unless a later path leads to the same place. Two things are behind
this. Directories are made where nothing stands and are never taken away, so a path goes on leading to
the place that it once led to (`Grows`, `Grows.find_eq_ok`). And one write changes the text at one
place only (`write_eq_ok`).

* `growsAlong_makeAll`: making directories adds directories on one way and changes nothing else, even if
  it fails.
* `text?_writeAll`: after a number of files have been written, there stands at every place the last
  text whose path leads there, or else what stood there before.
* `read_writeAll`: what is then read at the path of a file. -/

namespace Tablewright.FileTree

variable {t t' : FileTree} {p q : Place} {n : Node}

/-! ## Places -/

/-- A node that is put at a place changes nothing at other places. -/
theorem node?_put_of_ne (t : FileTree) (n : Node) (h : q ≠ p) :
    (t.put p n).node? q = t.node? q := by
  cases q with
  | nil => rfl
  | cons name above =>
      show List.lookup (name :: above) ((p, n) :: t.nodes.filter fun e => e.1 != p) = _
      have hne : ((name :: above) == p) = false := by
        simpa using h
      rw [List.lookup_cons, hne]
      exact lookup_filter_ne h t.nodes

/-- A node at one place leaves the texts at all others alone. -/
theorem text?_put_of_ne (t : FileTree) (n : Node) (h : q ≠ p) :
    (t.put p n).text? q = t.text? q := by
  rw [text?, text?, node?_put_of_ne t n h]

/-- There is a text where a file stands. -/
theorem text?_eq_some_iff {text : String} :
    t.text? p = some text ↔ t.node? p = some (.file text) := by
  rw [text?]
  cases t.node? p with
  | none => simp
  | some node => cases node <;> simp

/-- Where no directory stands, a file can be put. -/
theorem text?_put_file (text : String) (h : t.node? p ≠ some .directory) :
    (t.put p (.file text)).text? p = some text := by
  have hroot : p ≠ [] := by
    rintro rfl
    exact h rfl
  rw [text?, node?_put_self t p _ hroot]

/-- The check succeeds where a directory stands. -/
theorem checkDirectory_eq_ok_iff : t.checkDirectory p = .ok () ↔ t.node? p = some .directory := by
  rw [checkDirectory]
  cases t.node? p with
  | none => simp
  | some node => cases node <;> simp

/-! ## Directories that stay -/

/-- Every directory of a tree stands in another one too, which has the same working directory. -/
structure Grows (t t' : FileTree) : Prop where
  workingDirectory_eq : t'.workingDirectory = t.workingDirectory
  directory : ∀ {p : Place}, t.node? p = some .directory → t'.node? p = some .directory

/-- A tree that stays the same has lost no directory. -/
theorem Grows.refl (t : FileTree) : t.Grows t :=
  ⟨rfl, id⟩

/-- A tree that grows twice has grown. -/
theorem Grows.trans {t'' : FileTree} (h : t.Grows t') (h' : t'.Grows t'') : t.Grows t'' :=
  ⟨h'.workingDirectory_eq.trans h.workingDirectory_eq, fun hp => h'.directory (h.directory hp)⟩

/-- What is put where no directory stands leaves the directories alone. -/
theorem grows_put (n : Node) (h : t.node? p ≠ some .directory) : t.Grows (t.put p n) := by
  refine ⟨rfl, fun {q} hq => ?_⟩
  have hne : q ≠ p := by
    rintro rfl
    exact h hq
  rw [node?_put_of_ne t n hne, hq]

/-- A name goes on leading to the same place. -/
theorem Grows.step_eq_ok {name : String} (hg : t.Grows t') (h : t.step p name = .ok q) :
    t'.step p name = .ok q := by
  rw [step] at h ⊢
  obtain ⟨⟨⟩, hcheck, hrest⟩ := bind_eq_ok_iff.mp h
  have hcheck' : t'.checkDirectory p = .ok () :=
    checkDirectory_eq_ok_iff.mpr (hg.directory (checkDirectory_eq_ok_iff.mp hcheck))
  exact bind_eq_ok_iff.mpr ⟨(), hcheck', hrest⟩

/-- A way through a tree is a way through the tree that it has grown into. -/
theorem Grows.foldlM_step_eq_ok (hg : t.Grows t') {names : List String}
    (h : names.foldlM t.step p = .ok q) : names.foldlM t'.step p = .ok q := by
  induction names generalizing p with
  | nil => exact h
  | cons name names ih =>
      rw [List.foldlM_cons] at h ⊢
      obtain ⟨here, hstep, hrest⟩ := bind_eq_ok_iff.mp h
      exact bind_eq_ok_iff.mpr ⟨here, hg.step_eq_ok hstep, ih hrest⟩

/-- **A path goes on leading to the same place** as long as the directories stay. -/
theorem Grows.find_eq_ok (hg : t.Grows t') {path : String} (h : t.find path = .ok p) :
    t'.find path = .ok p := by
  have hstart : t'.start path = t.start path := by
    rw [start, start, hg.workingDirectory_eq]
  rw [find] at h ⊢
  by_cases hnull : holdsNull path = true
  · rw [if_pos hnull] at h
    contradiction
  by_cases hempty : path = ""
  · rw [if_neg hnull, if_pos hempty] at h
    contradiction
  by_cases hlong : isLongPath path = true
  · rw [if_neg hnull, if_neg hempty, if_pos hlong] at h
    contradiction
  rw [if_neg hnull, if_neg hempty, if_neg hlong] at h ⊢
  rw [hstart]
  exact hg.foldlM_step_eq_ok h

/-- A path leads to where its components lead. -/
theorem foldlM_of_find_eq_ok {path : String} (h : t.find path = .ok p) :
    (Path.components path).foldlM t.step (t.start path) = .ok p := by
  rw [find] at h
  split at h
  · contradiction
  split at h
  · contradiction
  split at h
  · contradiction
  exact h

/-- A path leads to the place of its last component in the directory that the others lead to. -/
theorem exists_above_of_find_eq_ok {path name : String} {cs : List String}
    (h : t.find path = .ok p) (hc : Path.components path = cs ++ [name]) (hname : name ≠ "..") :
    ∃ above, cs.foldlM t.step (t.start path) = .ok above ∧ p = name :: above := by
  have hfold := foldlM_of_find_eq_ok h
  rw [hc, List.foldlM_append] at hfold
  obtain ⟨above, habove, hfold⟩ := bind_eq_ok_iff.mp hfold
  rw [List.foldlM_cons] at hfold
  obtain ⟨here, hstep, hfold⟩ := bind_eq_ok_iff.mp hfold
  obtain rfl := Except.ok.inj hfold
  refine ⟨above, habove, ?_⟩
  rw [step] at hstep
  obtain ⟨-, -, hstep⟩ := bind_eq_ok_iff.mp hstep
  rw [if_neg hname] at hstep
  split at hstep
  · contradiction
  · exact (Except.ok.inj hstep).symm

/-! ## Making directories -/

/-- A tree has grown by directories only. -/
structure GrowsInDirectories (t t' : FileTree) : Prop extends Grows t t' where
  text?_eq : ∀ p, t'.text? p = t.text? p

/-- A tree that stays the same has not grown by anything. -/
theorem GrowsInDirectories.refl (t : FileTree) : t.GrowsInDirectories t :=
  ⟨.refl t, fun _ => rfl⟩

/-- Growing by directories twice is growing by directories. -/
theorem GrowsInDirectories.trans {t'' : FileTree} (h : t.GrowsInDirectories t')
    (h' : t'.GrowsInDirectories t'') : t.GrowsInDirectories t'' :=
  ⟨h.toGrows.trans h'.toGrows, fun p => (h'.text?_eq p).trans (h.text?_eq p)⟩

/-- A directory that is made where nothing stands is no change for files. -/
theorem growsInDirectories_put (h : t.node? p = none) :
    t.GrowsInDirectories (t.put p .directory) := by
  refine ⟨grows_put _ (by simp [h]), fun q => ?_⟩
  by_cases hqp : q = p
  · have hroot : p ≠ [] := by
      rintro rfl
      contradiction
    rw [hqp, text?, text?, node?_put_self t p _ hroot, h]
  · exact text?_put_of_ne t _ hqp

/-- What has changed in a tree that has grown by directories only is a directory that is new. -/
theorem GrowsInDirectories.node?_eq_directory (h : t.GrowsInDirectories t')
    (hp : t'.node? p ≠ t.node? p) : t'.node? p = some .directory := by
  cases hnew : t'.node? p with
  | some node =>
      cases node with
      | directory => rfl
      | file text =>
          have hold : t.node? p = some (.file text) :=
            text?_eq_some_iff.mp ((h.text?_eq p).symm.trans (text?_eq_some_iff.mpr hnew))
          exact absurd (hnew.trans hold.symm) hp
  | none =>
      -- nothing is taken away
      cases hold : t.node? p with
      | none => exact absurd (hnew.trans hold.symm) hp
      | some node =>
          cases node with
          | directory =>
              have hstays := h.directory hold
              rw [hnew] at hstays
              contradiction
          | file text =>
              have hstays := text?_eq_some_iff.mp ((h.text?_eq p).trans (text?_eq_some_iff.mpr hold))
              rw [hnew] at hstays
              contradiction

/-- A tree has grown by directories on one way only: each of them stands where some first names of the
way lead. -/
structure GrowsAlong (t t' : FileTree) (start : Place) (names : List String) : Prop
    extends GrowsInDirectories t t' where
  onWay : ∀ p, t'.node? p ≠ t.node? p → ∃ ns, ns <+: names ∧ ns.foldlM t'.step start = .ok p

section Along

variable {start : Place} {names : List String}

/-- A tree that stays the same has not grown on any way. -/
theorem GrowsAlong.refl (t : FileTree) : t.GrowsAlong t start names :=
  ⟨.refl t, fun _ hp => absurd rfl hp⟩

/-- Growing on one way twice is growing on it. -/
theorem GrowsAlong.trans {t'' : FileTree} (h : t.GrowsAlong t' start names)
    (h' : t'.GrowsAlong t'' start names) : t.GrowsAlong t'' start names := by
  refine ⟨h.toGrowsInDirectories.trans h'.toGrowsInDirectories, fun p hp => ?_⟩
  by_cases hlater : t''.node? p = t'.node? p
  · obtain ⟨ns, hns, hlead⟩ := h.onWay p (hlater ▸ hp)
    exact ⟨ns, hns, h'.toGrows.foldlM_step_eq_ok hlead⟩
  · exact h'.onWay p hlater

/-- A way may go on. -/
theorem GrowsAlong.append (h : t.GrowsAlong t' start names) (more : List String) :
    t.GrowsAlong t' start (names ++ more) := by
  refine ⟨h.toGrowsInDirectories, fun p hp => ?_⟩
  obtain ⟨ns, hns, hlead⟩ := h.onWay p hp
  exact ⟨ns, hns.trans (List.prefix_append _ _), hlead⟩

/-- A directory that is made stands at the end of its way. -/
theorem growsAlong_makeOne {name : String} {above : List String}
    (h : t.makeOne start name above = .ok t') : t.GrowsAlong t' start (name :: above).reverse := by
  rw [makeOne] at h
  obtain ⟨here, hway, h⟩ := bind_eq_ok_iff.mp h
  obtain ⟨p, hstep, h⟩ := bind_eq_ok_iff.mp h
  cases hp : t.node? p with
  | none =>
      rw [hp] at h
      obtain rfl := Except.ok.inj h
      have hgrows := growsInDirectories_put hp
      refine ⟨hgrows, fun q hq => ⟨_, List.prefix_rfl, hgrows.foldlM_step_eq_ok ?_⟩⟩
      -- nothing has changed but the place at the end of the way
      obtain rfl : q = p := Classical.not_not.mp fun hne => hq (node?_put_of_ne t _ hne)
      rw [List.reverse_cons, List.foldlM_append]
      exact bind_eq_ok_iff.mpr ⟨here, hway, bind_eq_ok_iff.mpr ⟨q, hstep, rfl⟩⟩
  | some node =>
      rw [hp] at h
      contradiction

/-- A directory that is made unless it is there stands at the end of its way. -/
theorem growsAlong_ensureOne {name : String} {above : List String}
    (h : t.ensureOne start name above = .ok t') : t.GrowsAlong t' start (name :: above).reverse := by
  rw [ensureOne] at h
  split at h
  · split at h
    · obtain rfl := Except.ok.inj h
      exact .refl t
    · contradiction
  · exact growsAlong_makeOne h

/-- The tree after directories have been made, or as far as they could be made. -/
def left : Except (FileFault × FileTree) FileTree → FileTree
  | .ok t => t
  | .error (_, t) => t

/-- **Making directories changes nothing else**, whether or not all of them can be made: there are new
directories on the way, and nothing is gone. -/
theorem growsAlong_makeAll (t : FileTree) (start : Place) (names : List String) :
    t.GrowsAlong (left (t.makeAll start names)) start names.reverse := by
  induction names with
  | nil => exact .refl t
  | cons name above ih =>
      have hlast {t₁ : FileTree} (h : t.GrowsAlong t₁ start (name :: above).reverse) :
          t.GrowsAlong (left ((t₁.ensureOne start name above).mapError (·, t₁))) start
            (name :: above).reverse := by
        cases hensure : t₁.ensureOne start name above with
        | error e => exact h
        | ok t₂ => exact h.trans (growsAlong_ensureOne hensure)
      rw [makeAll]
      split
      · -- the way is missing and is made first
        have hway : t.GrowsAlong (left (t.makeAll start above)) start (name :: above).reverse := by
          rw [List.reverse_cons]
          exact ih.append [name]
        cases habove : t.makeAll start above with
        | error e =>
            rw [habove] at hway
            exact hway
        | ok t₁ =>
            rw [habove] at hway
            exact hlast hway
      · exact hlast (.refl t)

/-- Making a directory makes directories on the way to it only, even if it fails. -/
theorem growsAlong_makeDirectory (t : FileTree) (path : String) :
    t.GrowsAlong (left (t.makeDirectory path)) (t.start path) (Path.components path) := by
  rw [makeDirectory]
  split
  · exact .refl t
  split
  · exact .refl t
  have hall := growsAlong_makeAll t (t.start path) (Path.components path).reverse
  rwa [List.reverse_reverse] at hall

end Along

/-- Making a directory makes directories only. -/
theorem growsInDirectories_makeDirectory {path : String} (h : t.makeDirectory path = .ok t') :
    t.GrowsInDirectories t' := by
  have hall := growsAlong_makeDirectory t path
  rw [h] at hall
  exact hall.toGrowsInDirectories

/-! ## Writing one file -/

/-- What stands at the place to which a path leads is read there, unless the path asks for a
directory. -/
theorem read_eq_ok {path text : String} (hp : t.find path = .ok p) (htext : t.text? p = some text)
    (hpath : Path.asksDirectory path = false) : t.read path = .ok text := by
  rw [read]
  refine bind_eq_ok_iff.mpr ⟨p, hp, ?_⟩
  rw [text?_eq_some_iff.mp htext]
  show (if Path.asksDirectory path = true then _ else _) = _
  rw [hpath]
  rfl

/-- Putting a text succeeds where no directory stands, and puts a file there. -/
theorem overwrite_eq_ok {path text : String} (h : t.overwrite path text = .ok t') :
    ∃ p, t.find path = .ok p ∧ t.node? p ≠ some .directory ∧ t' = t.put p (.file text) := by
  rw [overwrite] at h
  obtain ⟨p, hp, h⟩ := bind_eq_ok_iff.mp h
  refine ⟨p, hp, ?_⟩
  split at h
  case h_1 => contradiction
  case h_2 hnode => exact ⟨hnode, (Except.ok.inj h).symm⟩

/-- **A file that is written stands where its path leads**, directories stay, and at no other place is
there another text. -/
theorem write_eq_ok {path text : String} (h : t.write path text = (.ok (), t')) :
    ∃ p, t'.find path = .ok p ∧ t'.text? p = some text ∧ t.Grows t' ∧
      ∀ q, q ≠ p → t'.text? q = t.text? q := by
  rw [write] at h
  split at h
  case h_1 => simp at h
  case h_2 t₁ hdirectory =>
    split at h
    case h_1 => simp at h
    case h_2 t₂ hoverwrite =>
      obtain rfl := (Prod.mk.inj h).2
      have hmade := growsInDirectories_makeDirectory hdirectory
      obtain ⟨p, hp, hnode, rfl⟩ := overwrite_eq_ok hoverwrite
      have hput := grows_put (.file text) hnode
      refine ⟨p, hput.find_eq_ok hp, text?_put_file text hnode, hmade.toGrows.trans hput, ?_⟩
      intro q hq
      rw [text?_put_of_ne t₁ _ hq, hmade.text?_eq]

/-! ## Writing files -/

/-- Write files, given by path and text, one after the other. -/
def writeAll (t : FileTree) : List (String × String) → Except FileFault FileTree
  | [] => .ok t
  | (path, text) :: files =>
    match t.write path text with
    | (.ok (), t') => t'.writeAll files
    | (.error fault, _) => .error fault

/-- Does a path lead to a place? -/
def leadsTo (t : FileTree) (path : String) (p : Place) : Bool :=
  (t.find path).toOption == some p

/-- A path leads where it is found to lead. -/
theorem leadsTo_eq_true_iff {path : String} : t.leadsTo path p = true ↔ t.find path = .ok p := by
  rw [leadsTo, beq_iff_eq, toOption_eq_some_iff]

/-- The files of a list whose paths lead to a place. -/
def leadingTo (t : FileTree) (p : Place) (files : List (String × String)) :
    List (String × String) :=
  files.filter fun f => t.leadsTo f.1 p

/-- A file whose path leads to the place counts. -/
theorem leadingTo_cons_of_eq {path : String} (h : t.find path = .ok p) (text : String)
    (files : List (String × String)) :
    t.leadingTo p ((path, text) :: files) = (path, text) :: t.leadingTo p files :=
  List.filter_cons_of_pos (leadsTo_eq_true_iff.mpr h)

/-- A file whose path leads elsewhere does not count. -/
theorem leadingTo_cons_of_ne {path : String} (h : t.find path ≠ .ok p) (text : String)
    (files : List (String × String)) :
    t.leadingTo p ((path, text) :: files) = t.leadingTo p files :=
  List.filter_cons_of_neg (mt leadsTo_eq_true_iff.mp h)

/-- Writing files is writing the first and then the others. -/
theorem writeAll_cons_eq_ok {path text : String} {files : List (String × String)}
    (h : t.writeAll ((path, text) :: files) = .ok t') :
    ∃ t₁, t.write path text = (.ok (), t₁) ∧ t₁.writeAll files = .ok t' := by
  rw [writeAll] at h
  split at h
  case h_1 t₁ hwrite => exact ⟨t₁, hwrite, h⟩
  case h_2 => contradiction

/-- Writing files loses no directory. -/
theorem grows_writeAll {files : List (String × String)} (h : t.writeAll files = .ok t') :
    t.Grows t' := by
  induction files generalizing t with
  | nil =>
      obtain rfl := Except.ok.inj h
      exact .refl t
  | cons f files ih =>
      obtain ⟨t₁, hwrite, hrest⟩ := writeAll_cons_eq_ok h
      obtain ⟨-, -, -, hgrows, -⟩ := write_eq_ok hwrite
      exact hgrows.trans (ih hrest)

/-- The path of every file that is written leads to a place. -/
theorem exists_find_writeAll {files : List (String × String)} (h : t.writeAll files = .ok t')
    {f : String × String} (hf : f ∈ files) : ∃ p, t'.find f.1 = .ok p := by
  induction files generalizing t with
  | nil => contradiction
  | cons g files ih =>
      obtain ⟨t₁, hwrite, hrest⟩ := writeAll_cons_eq_ok h
      rcases List.mem_cons.mp hf with rfl | hf
      · obtain ⟨p, hp, -⟩ := write_eq_ok hwrite
        exact ⟨p, (grows_writeAll hrest).find_eq_ok hp⟩
      · exact ih hrest hf

/-- **At every place there stands the last text whose path leads there**, or else what stood there
before. -/
theorem text?_writeAll {files : List (String × String)} (h : t.writeAll files = .ok t')
    (q : Place) :
    t'.text? q = ((t'.leadingTo q files).getLast?.map Prod.snd).or (t.text? q) := by
  induction files generalizing t with
  | nil =>
      obtain rfl := Except.ok.inj h
      rfl
  | cons f files ih =>
      obtain ⟨path, text⟩ := f
      obtain ⟨t₁, hwrite, hrest⟩ := writeAll_cons_eq_ok h
      obtain ⟨p, hp, htext, -, hother⟩ := write_eq_ok hwrite
      -- the path goes on leading to its place while the other files are written
      have hp' : t'.find path = .ok p := (grows_writeAll hrest).find_eq_ok hp
      rw [ih hrest]
      by_cases hq : p = q
      · subst hq
        rw [leadingTo_cons_of_eq hp', List.getLast?_cons, htext]
        cases (t'.leadingTo p files).getLast? with
        | none => rfl
        | some g => rfl
      · have hne : t'.find path ≠ .ok q := by
          rw [hp']
          exact fun heq => hq (Except.ok.inj heq)
        rw [leadingTo_cons_of_ne hne, hother q (Ne.symm hq)]

/-- **At the path of a file that is written there is read the last text that leads to its place.** -/
theorem read_writeAll {files : List (String × String)} (h : t.writeAll files = .ok t')
    {f : String × String} (hf : f ∈ files) (hpath : Path.asksDirectory f.1 = false) :
    ∃ p g, t'.find f.1 = .ok p ∧ (t'.leadingTo p files).getLast? = some g ∧
      t'.read f.1 = .ok g.2 := by
  obtain ⟨p, hp⟩ := exists_find_writeAll h hf
  -- the file itself leads to its place, so there is a last one that does
  have hmem : f ∈ t'.leadingTo p files :=
    List.mem_filter.mpr ⟨hf, leadsTo_eq_true_iff.mpr hp⟩
  obtain ⟨g, hg⟩ : ∃ g, (t'.leadingTo p files).getLast? = some g :=
    ⟨_, List.getLast?_eq_some_getLast (List.ne_nil_of_mem hmem)⟩
  refine ⟨p, g, hp, hg, read_eq_ok hp ?_ hpath⟩
  rw [text?_writeAll h, hg]
  rfl

end Tablewright.FileTree
