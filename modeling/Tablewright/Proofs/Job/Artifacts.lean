import Mathlib.Data.List.Nodup
import Tablewright.Proofs.Entity.Build
import Tablewright.Proofs.Job.Writing

/-! # The files of a job

A job that writes entities into files of their own writes one for each entity that its backend accepts
(`Job.artifacts`) and tells about all of them. What is read afterwards at the path of such a file is
the last text whose path leads to the same place. So every file holds the text of its own entity if the
tables' names are told apart by the places that they lead to, which is so if the paths are different
and no name holds a slash. It is not so in general, as documents may define tables of one name. -/

namespace Tablewright

open CommandLine (treeWriter)

namespace Job

variable {j : Job} {e : Entity} {es : List Entity} {a b : WrittenFile × String}

/-- The file that a job writes for one entity, with its text, if its backend accepts the entity. -/
def artifact? (j : Job) (e : Entity) : Option (WrittenFile × String) :=
  match j.backend.emit [e] with
  | .ok text => some (⟨Path.withSuffix j.out e.name j.backend.suffix, [e.name]⟩, text)
  | .error _ => none

/-- The files that a job writes for entities, one for each that its backend accepts. -/
def artifacts (j : Job) (es : List Entity) : List (WrittenFile × String) :=
  es.filterMap j.artifact?

/-- An entity's artifact is the text it is emitted as, in the file of its name. -/
theorem artifact?_eq_some_iff : j.artifact? e = some a ↔
    j.backend.emit [e] = .ok a.2 ∧
      a.1 = ⟨Path.withSuffix j.out e.name j.backend.suffix, [e.name]⟩ := by
  rw [artifact?]
  cases j.backend.emit [e] with
  | error cause => simp
  | ok text =>
      rw [Option.some_inj, Except.ok.injEq, Prod.ext_iff, and_comm, eq_comm, @eq_comm _ _ a.1]

/-- The step for an entity writes its file. -/
theorem artifact?_entityStep (j : Job) (e : Entity) : (j.entityStep e).artifact? = j.artifact? e := by
  rw [entityStep, artifact?]
  cases j.backend.emit [e] with
  | ok text => rfl
  | error cause => cases j.keepGoing <;> rfl

/-- With a file for each entity, the steps are those of the entities in order. -/
theorem steps_perEntity (h : j.layout = .perEntity) (es : List Entity) :
    j.steps es = es.map j.entityStep := by
  rw [steps, h]

/-- With a file for each entity, the artifacts of the steps are those of the entities. -/
theorem filterMap_artifact?_steps (h : j.layout = .perEntity) (es : List Entity) :
    (j.steps es).filterMap Step.artifact? = j.artifacts es := by
  have hartifact : Step.artifact? ∘ j.entityStep = j.artifact? :=
    funext j.artifact?_entityStep
  rw [steps_perEntity h, List.filterMap_map, hartifact, artifacts]

/-! ## Paths -/

/-- The path of a file that is written stands for no directory. -/
theorem asksDirectory_of_mem_artifacts (h : a ∈ j.artifacts es) :
    Path.asksDirectory a.1.path = false := by
  obtain ⟨e, -, he⟩ := List.mem_filterMap.mp h
  rw [(artifact?_eq_some_iff.mp he).2]
  exact Path.asksDirectory_withSuffix j.backend j.out e.name

/-- **Paths of files that lead to one place are equal** if the names in the files hold no slash. -/
theorem path_eq_of_find_eq {t : FileTree} {p : Place} (ha : a ∈ j.artifacts es)
    (hb : b ∈ j.artifacts es) (hnameA : ∀ name ∈ a.1.entities, '/' ∉ name.toList)
    (hnameB : ∀ name ∈ b.1.entities, '/' ∉ name.toList) (hpa : t.find a.1.path = .ok p)
    (hpb : t.find b.1.path = .ok p) : a.1.path = b.1.path := by
  -- the place is called after the table, so it tells the table's name
  have hplace {c : WrittenFile × String} (hc : c ∈ j.artifacts es)
      (hname : ∀ name ∈ c.1.entities, '/' ∉ name.toList) (hpc : t.find c.1.path = .ok p) :
      ∃ name above, c.1.path = Path.withSuffix j.out name j.backend.suffix ∧
        p = (name ++ j.backend.suffix) :: above := by
    obtain ⟨e, -, he⟩ := List.mem_filterMap.mp hc
    have hfile := (artifact?_eq_some_iff.mp he).2
    rw [hfile] at hname hpc
    have hslash := hname e.name (List.mem_singleton.mpr rfl)
    obtain ⟨above, -, habove⟩ := FileTree.exists_above_of_find_eq_ok hpc
      (Path.components_withSuffix j.backend j.out hslash)
      (Path.append_suffix_ne_dots j.backend e.name)
    exact ⟨e.name, above, by rw [hfile], habove⟩
  obtain ⟨name, above, hpath, hp⟩ := hplace ha hnameA hpa
  obtain ⟨name', above', hpath', hp'⟩ := hplace hb hnameB hpb
  obtain ⟨hname, -⟩ := List.cons.inj (hp.symm.trans hp')
  rw [hpath, hpath', (String.append_left_inj _).mp hname]

/-! ## Texts -/

variable {t t' : FileTree}

/-- **At the path of a file there is read the last text that leads to its place**, after all files have
been written. -/
theorem exists_read_eq_of_writeAll (hwritten : t.writeAll ((j.artifacts es).map placed) = .ok t')
    (ha : a ∈ j.artifacts es) :
    ∃ p b, t'.find a.1.path = .ok p ∧
      ((j.artifacts es).filter fun b => t'.leadsTo b.1.path p).getLast? = some b ∧
      t'.read a.1.path = .ok b.2 := by
  obtain ⟨p, g, hp, hg, hread⟩ := FileTree.read_writeAll hwritten (List.mem_map_of_mem ha)
    (asksDirectory_of_mem_artifacts ha)
  rw [leadingTo_map_placed, List.getLast?_map] at hg
  obtain ⟨b, hb, rfl⟩ := Option.map_eq_some_iff.mp hg
  exact ⟨p, b, hp, hb, hread⟩

/-- **At the path of a file its own text is read** if the paths are different and no name holds a
slash. -/
theorem read_eq_of_writeAll (hwritten : t.writeAll ((j.artifacts es).map placed) = .ok t')
    (hpaths : ((j.artifacts es).map fun b => b.1.path).Nodup)
    (hslash : ∀ b ∈ j.artifacts es, ∀ name ∈ b.1.entities, '/' ∉ name.toList)
    (ha : a ∈ j.artifacts es) : t'.read a.1.path = .ok a.2 := by
  obtain ⟨p, b, hp, hb, hread⟩ := exists_read_eq_of_writeAll hwritten ha
  obtain ⟨hmem, hleads⟩ := List.mem_filter.mp (List.mem_of_getLast? hb)
  -- the last text is that of the file itself, as no other path leads to its place
  have hpath : a.1.path = b.1.path :=
    path_eq_of_find_eq ha hmem (hslash a ha) (hslash b hmem) hp
      (FileTree.leadsTo_eq_true_iff.mp hleads)
  rw [hread, List.inj_on_of_nodup_map hpaths ha hmem hpath]

/-! ## Runs -/

variable {read : String → Except FileFault String} {describe : Json.Fault → String} {s : Summary}

/-- **Every file of a job holds the last text that leads to its place.** A job that writes entities
into files of their own and ends well lists one file for each entity that its backend accepts. At the
path of each there is read the text of the last of these entities whose path leads to the same place.
This is the text of the file's own entity if the listed paths are different and the names of the
tables hold no slash. -/
theorem files_hold_last_text [Pattern.Library] (hlayout : j.layout = .perEntity)
    (hrun : (j.run read treeWriter describe).run t = (.ok s, t')) :
    ∃ loaded, j.source.load read .builtin j.options = .ok loaded ∧
      s.files = (j.artifacts loaded.schema.entities).map Prod.fst ∧
      (∀ a ∈ j.artifacts loaded.schema.entities, ∃ p b, t'.find a.1.path = .ok p ∧
        ((j.artifacts loaded.schema.entities).filter fun b => t'.leadsTo b.1.path p).getLast? =
          some b ∧
        t'.read a.1.path = .ok b.2) ∧
      ((s.files.map WrittenFile.path).Nodup →
        (∀ f ∈ s.files, ∀ name ∈ f.entities, '/' ∉ name.toList) →
          ∀ a ∈ j.artifacts loaded.schema.entities, t'.read a.1.path = .ok a.2) := by
  obtain ⟨loaded, hload⟩ := exists_load_of_run_eq_ok hrun
  rw [run_eq_perform hload] at hrun
  obtain ⟨-, hwritten, hs⟩ := perform_eq_ok hrun
  rw [filterMap_artifact?_steps hlayout] at hwritten
  have hfiles : s.files = (j.artifacts loaded.schema.entities).map Prod.fst := by
    rw [hs, Step.files_foldl_told, filterMap_artifact?_steps hlayout]
    rfl
  refine ⟨loaded, hload, hfiles, fun a ha => exists_read_eq_of_writeAll hwritten ha, ?_⟩
  intro hpaths hslash a ha
  rw [hfiles, List.map_map] at hpaths
  rw [hfiles] at hslash
  exact read_eq_of_writeAll hwritten hpaths (fun b hb => hslash b.1 (List.mem_map_of_mem hb)) ha

/-- A job for two documents that passes over the table `2fa`, as that is no name for a structure,
lists the files of `user` and of `post`, and each of them holds its own text. -/
theorem files_hold_last_text_of_documents :
    let t : FileTree :=
      ⟨[], [(["a.json"],
          .file "\x7b\"tables\":[\x7b\"name\":\"user\"\x7d,\x7b\"name\":\"2fa\"\x7d]\x7d"),
        (["b.json"], .file "\x7b\"tables\":[\x7b\"name\":\"post\"\x7d]\x7d")]⟩
    let j : Job := ⟨"model", ⟨["a.json", "b.json"], "mysql", ⟨[], []⟩, false⟩, .standard,
      .model ⟨"model", .none⟩, "./model", .perEntity, true⟩
    let s : Summary :=
      ⟨"model", [⟨"./model/user.go", ["user"]⟩, ⟨"./model/post.go", ["post"]⟩], [],
        [⟨"2fa", "2fa: `2fa` is not a valid Go struct name"⟩]⟩
    let result := (j.run t.read treeWriter fun _ => "").run t
    result.1 = .ok s ∧ ∃ loaded, j.source.load t.read .builtin j.options = .ok loaded ∧
      ∀ a ∈ j.artifacts loaded.schema.entities, result.2.read a.1.path = .ok a.2 := by
  intro t j s result
  have hresult : result.1 = .ok s := by
    decide +kernel
  obtain ⟨loaded, hload, -, -, hown⟩ := files_hold_last_text (j := j) rfl (Prod.ext hresult rfl)
  exact ⟨hresult, loaded, hload, hown (by decide +kernel) (by decide +kernel)⟩

/-- **Not every file holds the text of its own entity**: when two documents define a table `user`, both
are listed with the same path, where only the text of the later one is found. -/
theorem files_of_one_name_lost :
    ¬ ∀ (j : Job) (read : String → Except FileFault String) (describe : Json.Fault → String)
        (t t' : FileTree) (s : Summary) (loaded : Loaded), j.layout = .perEntity →
      j.source.load read .builtin j.options = .ok loaded →
        (j.run read treeWriter describe).run t = (.ok s, t') →
          ∀ a ∈ j.artifacts loaded.schema.entities, t'.read a.1.path = .ok a.2 := by
  intro hclaim
  let t : FileTree :=
    ⟨[], [(["a.json"], .file "\x7b\"tables\":[\x7b\"name\":\"user\"\x7d]\x7d"),
      (["b.json"],
        .file "\x7b\"tables\":[\x7b\"name\":\"user\",\"comment\":\"people\"\x7d]\x7d")]⟩
  let j : Job := ⟨"model", ⟨["a.json", "b.json"], "mysql", ⟨[], []⟩, false⟩, .standard,
    .model ⟨"model", .none⟩, "./model", .perEntity, false⟩
  let user (comment : String) : Entity :=
    .ofKinds .standard { (default : Table) with name := "user", comment := comment } []
  let loaded : Loaded := ⟨⟨"", [user "", user "people"]⟩, []⟩
  let s : Summary :=
    ⟨"model", [⟨"./model/user.go", ["user"]⟩, ⟨"./model/user.go", ["user"]⟩], [], []⟩
  have hload : j.source.load t.read .builtin j.options = .ok loaded := by
    decide +kernel
  have hrun : ((j.run t.read treeWriter fun _ => "").run t).1 = .ok s := by
    rw [run, hload]
    decide +kernel
  have hown := hclaim j t.read (fun _ => "") t _ s loaded rfl hload (Prod.ext hrun rfl)
  have hread (e : Entity) (he : e ∈ loaded.schema.entities) (hsome : (j.artifact? e).isSome = true) :
      ∃ text, j.backend.emit [e] = .ok text ∧
        ((j.run t.read treeWriter fun _ => "").run t).2.read
          (Path.withSuffix j.out e.name j.backend.suffix) = .ok text := by
    obtain ⟨a, ha⟩ := Option.isSome_iff_exists.mp hsome
    obtain ⟨hemit, hfile⟩ := artifact?_eq_some_iff.mp ha
    have hreadA := hown a (List.mem_filterMap.mpr ⟨e, he, ha⟩)
    rw [hfile] at hreadA
    exact ⟨a.2, hemit, hreadA⟩
  -- the two entities have one path and different texts
  obtain ⟨first, hfirst, hreadFirst⟩ := hread (user "") (by simp [loaded]) (by decide +kernel)
  obtain ⟨second, hsecond, hreadSecond⟩ :=
    hread (user "people") (by simp [loaded]) (by decide +kernel)
  have hsame : first = second :=
    Except.ok.inj (hreadFirst.symm.trans hreadSecond)
  have hdifferent : (j.backend.emit [user ""]).toOption ≠
      (j.backend.emit [user "people"]).toOption := by
    decide +kernel
  rw [hfirst, hsecond, hsame] at hdifferent
  exact hdifferent rfl

end Job

end Tablewright
