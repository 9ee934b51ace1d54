import Tablewright.Proofs.Job.Failure

/-! # Runs that fail

How far a run has come when it fails tells what it has done to the tree of files: nothing at all before
its job has begun with its steps, nothing if all entities were to go into one file and one of them is
refused, and otherwise the files of the entities before the first one that is refused. -/

namespace Tablewright.CommandLine

open Artifact

/-- Does a failure come before the first step of a job? Refusals and files that cannot be written come
with a step. -/
def RunError.beforeSteps : RunError → Bool
  | usage _ | config _ | unknownCommand _ | unknownStyle _ => true
  | job (.dialect _) | job (.noUsableInput _) | job (.pattern _) | job (.build _) => true
  | job (.emit _) | job (.write _ _) => false

variable {t : FileTree} {words : List String} {i : Invocation} {j : Job}

/-- A run does what its job does. -/
theorem runInTree_eq [Pattern.Library] (hi : readWords words = .ok i) (hj : i.job t.read = .ok j)
    (describe : Json.Fault → String) :
    runInTree t words describe =
      match (j.run t.read treeWriter describe).run t with
      | (.error e, t') => (.error (.job e), t')
      | (.ok s, t') => (.ok (s.render i.form), t') := by
  rw [runInTree, hi]
  show (i.run t.read treeWriter describe).run t = _
  rw [Invocation.run, hj]
  show (StateT.run (_ >>= _) t) = _
  rw [StateT.run_bind]
  rcases (j.run t.read treeWriter describe).run t with ⟨_ | _, t'⟩
  · rfl
  · rfl

/-- A run that fails before the first step changes nothing. -/
theorem tree_eq_of_beforeSteps [Pattern.Library] {describe : Json.Fault → String} {e : RunError}
    (h : (runInTree t words describe).1 = .error e) (he : e.beforeSteps = true) :
    (runInTree t words describe).2 = t := by
  cases hi : readWords words with
  | error cause =>
      rw [runInTree, hi]
  | ok i =>
      cases hj : i.job t.read with
      | error cause =>
          have hrun : runInTree t words describe = (.error cause, t) := by
            rw [runInTree, hi]
            show (i.run t.read treeWriter describe).run t = _
            rw [Invocation.run, hj]
            rfl
          rw [hrun]
      | ok j =>
          rw [runInTree_eq hi hj] at h ⊢
          rcases hjob : (j.run t.read treeWriter describe).run t with ⟨cause | s, t'⟩
          · -- the job has failed, and not for a step
            rw [hjob] at h
            obtain rfl : RunError.job cause = e := Except.error.inj h
            have htree := Job.tree_eq_of_run_eq_error (congrArg Prod.fst hjob)
              (fun c hc => by rw [hc] at he; contradiction)
              (fun owner fault hc => by rw [hc] at he; contradiction)
            rw [hjob] at htree
            exact htree
          · rw [hjob] at h
            contradiction

/-! ## Runs that have begun with their steps -/

/-- Words stand for a job that loads a schema from a tree. -/
structure Begins [Pattern.Library] (t : FileTree) (words : List String) (j : Job)
    (loaded : Loaded) : Prop where
  exists_job : ∃ i, readWords words = .ok i ∧ i.job t.read = .ok j
  load_eq : j.source.load t.read .builtin j.options = .ok loaded

/-- A run begins exactly if its words are read, its job is set up and its source is loaded. -/
theorem begins_iff [Pattern.Library] {loaded : Loaded} : Begins t words j loaded ↔
    ((readWords words).toOption.bind fun i => (i.job t.read).toOption) = some j ∧
      j.source.load t.read .builtin j.options = .ok loaded := by
  simp only [Option.bind_eq_some_iff, toOption_eq_some_iff]
  exact ⟨fun h => ⟨h.exists_job, h.load_eq⟩, fun h => ⟨h.1, h.2⟩⟩

/-- A run fails as its job does. -/
theorem Begins.runInTree_eq_error [Pattern.Library] {loaded : Loaded}
    {describe : Json.Fault → String} {t' : FileTree} {cause : JobError} (h : Begins t words j loaded)
    (hjob : (j.run t.read treeWriter describe).run t = (.error cause, t')) :
    runInTree t words describe = (.error (.job cause), t') := by
  obtain ⟨i, hi, hj⟩ := h.exists_job
  rw [runInTree_eq hi hj, hjob]

/-- **A failing run leaves the tree as the failure dictates.** A run that fails before the first step
of its job leaves it as it was. If all entities go into one file and one of them is refused, the run
fails and leaves it as it was too, whether or not it is to go on after a refusal. If entities go into
files of their own, the run is not to go on and the files can be written, then the first refusal is
what the run fails for, and what has been written is the files of the entities before. -/
theorem failing_run_tree [Pattern.Library] :
    (∀ (t : FileTree) (words : List String) (describe : Json.Fault → String) (e : RunError),
      (runInTree t words describe).1 = .error e → e.beforeSteps = true →
        (runInTree t words describe).2 = t) ∧
    (∀ (t : FileTree) (words : List String) (describe : Json.Fault → String) (j : Job)
      (loaded : Loaded) (name : String), Begins t words j loaded → j.layout = .merged name →
        (∃ e ∈ loaded.schema.entities, ¬ ∃ text, j.backend.emit [e] = .ok text) →
          ∃ cause, runInTree t words describe = (.error (.job (.emit cause)), t)) ∧
    ∀ (t t' : FileTree) (words : List String) (describe : Json.Fault → String) (j : Job)
      (loaded : Loaded) (pre post : List Entity) (e : Entity) (cause : EmitError),
      Begins t words j loaded → j.layout = .perEntity → j.keepGoing = false →
        loaded.schema.entities = pre ++ e :: post →
          (∀ e' ∈ pre, ∃ text, j.backend.emit [e'] = .ok text) →
            j.backend.emit [e] = .error cause →
              t.writeAll ((j.artifacts pre).map placed) = .ok t' →
                runInTree t words describe = (.error (.job (.emit cause)), t') ∧
                  ∀ p, t'.text? p =
                    (((j.artifacts pre).filter fun a => t'.leadsTo a.1.path p).getLast?.map
                      Prod.snd).or (t.text? p) := by
  refine ⟨fun t words describe e h he => tree_eq_of_beforeSteps h he, ?_, ?_⟩
  · rintro t words describe j loaded name hbegins hlayout ⟨e, he, hrefused⟩
    obtain ⟨cause, hjob⟩ :=
      Job.run_merged_of_refused t describe hlayout hbegins.load_eq he hrefused
    exact ⟨cause, hbegins.runInTree_eq_error hjob⟩
  · intro t t' words describe j loaded pre post e cause hbegins hlayout hstop hentities hpre
      hrefused hwritten
    have hjob := Job.run_perEntity_of_refused describe hlayout hstop hbegins.load_eq hentities hpre
      hrefused hwritten
    refine ⟨hbegins.runInTree_eq_error hjob, fun p => ?_⟩
    -- of two files with one path the later one is what is read there
    rw [FileTree.text?_writeAll hwritten p, leadingTo_map_placed, List.getLast?_map, Option.map_map]
    rfl

/-- With tables `user`, `none` and `post`, of which `none` has no columns: an unknown style and one file
for all leave the tree as it was, and files of their own leave it with the script of `user` only. -/
theorem failing_run_tree_of_tables :
    let t : FileTree :=
      ⟨[], [(["f.json"], .file ("\x7b\"tables\":[\x7b\"name\":\"user\",\"columns\":" ++
        "[\x7b\"name\":\"id\",\"type\":\"int\"\x7d]\x7d,\x7b\"name\":\"none\"\x7d," ++
        "\x7b\"name\":\"post\",\"columns\":[\x7b\"name\":\"id\",\"type\":\"int\"\x7d]\x7d]\x7d"))]⟩
    let script := "CREATE TABLE `user` (\n  `id` int NOT NULL\n) " ++
      "ENGINE=InnoDB DEFAULT CHARSET=utf8mb4;\n"
    let describe (_ : Json.Fault) : String := ""
    let style := ["proto", "-i", "f.json", "--style", "loud"]
    let merged := ["sql", "-i", "f.json", "--merge", "--keep-going"]
    let scripts := ["sql", "-i", "f.json", "--disable-doc-comment"]
    runInTree t style describe = (.error (.unknownStyle "loud"), t) ∧
      (∃ cause, runInTree t merged describe = (.error (.job (.emit cause)), t)) ∧
      ∃ t', runInTree t scripts describe = (.error (.job (.emit ⟨"none", .noColumns⟩)), t') ∧
        t'.text? ["user.sql", "migration"] = some script ∧
        t'.text? ["none.sql", "migration"] = none ∧ t'.text? ["post.sql", "migration"] = none := by
  intro t script describe style merged scripts
  let o : Options := { Options.standard with enableForeignKey := true }
  let keyed (name : String) : Entity := .ofKinds o
    { (default : Table) with
      name := name, columns := [{ (default : Column) with name := "id", rawType := "int" }] }
    [.int32]
  let none : Entity := .ofKinds o { (default : Table) with name := "none" } []
  let loaded : Loaded := ⟨⟨"", [keyed "user", none, keyed "post"]⟩, []⟩
  let source : Source := ⟨["f.json"], "mysql", ⟨[], []⟩, false⟩
  let j (layout : Layout) (header : Header) (keepGoing : Bool) : Job :=
    ⟨"sql", source, o, .sql ⟨header⟩, "./migration", layout, keepGoing⟩
  have hload : source.load t.read .builtin o = .ok loaded := by
    decide +kernel
  let t' : FileTree :=
    ⟨[], (["user.sql", "migration"], .file script) :: (["migration"], .directory) :: t.nodes⟩
  obtain ⟨hearly, hmerged, hscripts⟩ := failing_run_tree
  refine ⟨?_, ?_, t', ?_⟩
  · -- the style is refused before any file is written
    have hstyle : (runInTree t style describe).1 = .error (.unknownStyle "loud") := by
      rfl
    exact Prod.ext hstyle (hearly t style describe _ hstyle rfl)
  · -- one file for all
    have hbegins : Begins t merged (j (.merged "create_table") .standard true) loaded :=
      begins_iff.mpr ⟨by decide +kernel, hload⟩
    have hrefused : ¬ ∃ text, (j (.merged "create_table") .standard true).backend.emit [none] =
        .ok text := by
      rintro ⟨text, htext⟩
      contradiction
    exact hmerged t merged describe _ loaded _ hbegins rfl ⟨none, by simp [loaded], hrefused⟩
  · -- files of their own, up to the table without columns
    have hwritten :
        t.writeAll (((j .perEntity .none false).artifacts [keyed "user"]).map placed) = .ok t' := by
      decide +kernel
    have hbegins : Begins t scripts (j .perEntity .none false) loaded :=
      begins_iff.mpr ⟨by decide +kernel, hload⟩
    obtain ⟨hrun, htexts⟩ := hscripts t t' scripts describe _ loaded [keyed "user"] [keyed "post"]
      none _ hbegins rfl rfl rfl (List.forall_mem_singleton.mpr ⟨_, rfl⟩) rfl hwritten
    refine ⟨hrun, ?_, ?_, ?_⟩
    · rw [htexts]
      decide +kernel
    · rw [htexts]
      decide +kernel
    · rw [htexts]
      decide +kernel

end Tablewright.CommandLine
