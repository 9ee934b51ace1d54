import Tablewright.Proofs.Job.Failure

/-! # Accounting for entities

A job that writes entities into files of their own comes to one of four ends with each of them: the file
is written, the refusal of the backend is told, or the job ends, for the refusal or as the file cannot be
written (`Job.run_perform_entityStep`). So when it ends well, each entity is either among the files or
among the failures, and both lists stand in the order of the entities (`Accounts`). This does not
depend on how files are written: it holds with every writer, on a tree of files or on anything else.

* `Job.every_entity_accounted`: the entities after a job that ends well, and what going on after a refusal
  changes. -/

namespace Tablewright

open CommandLine (treeWriter)

/-- A summary counts all entities of its files. -/
theorem Summary.entityCount_eq (s : Summary) :
    s.entityCount = (s.files.flatMap (·.entities)).length := by
  have hfold : ∀ (fs : List WrittenFile) (n : Nat),
      fs.foldl (fun n f => n + f.entities.length) n = n + (fs.flatMap (·.entities)).length := by
    intro fs
    induction fs with
    | nil => exact fun n => rfl
    | cons f fs ih =>
        intro n
        rw [List.foldl_cons, ih, List.flatMap_cons, List.length_append, Nat.add_assoc]
  rw [entityCount, hfold, Nat.zero_add]

/-- **Files and failures account for some entities**: going through the entities in order, each has the
next file, which is called after it in the directory, if the backend emits it alone, or else the next
failure, which tells why. -/
inductive Accounts (b : Artifact.Backend) (out : String) :
    List Entity → List WrittenFile → List FailedEntity → Prop where
  | nil : Accounts b out [] [] []
  /-- An entity that the backend emits has a file of its own. -/
  | written {e : Entity} {text : String} {es : List Entity} {files : List WrittenFile}
      {failed : List FailedEntity} (hemit : b.emit [e] = .ok text)
      (hrest : Accounts b out es files failed) :
      Accounts b out (e :: es) (⟨Path.withSuffix out e.name b.suffix, [e.name]⟩ :: files) failed
  /-- An entity that the backend refuses is a failure. -/
  | refused {e : Entity} {cause : Artifact.EmitError} {es : List Entity} {files : List WrittenFile}
      {failed : List FailedEntity} (hemit : b.emit [e] = .error cause)
      (hrest : Accounts b out es files failed) :
      Accounts b out (e :: es) files (⟨e.name, cause.message⟩ :: failed)

namespace Accounts

variable {b : Artifact.Backend} {out : String} {es : List Entity} {files : List WrittenFile}
  {failed : List FailedEntity}

/-- Every entity is counted once. -/
theorem length (h : Accounts b out es files failed) :
    (files.flatMap (·.entities)).length + failed.length = es.length := by
  induction h with
  | nil => rfl
  | written _ _ ih =>
      simp only [List.flatMap_cons, List.singleton_append, List.length_cons]
      omega
  | refused _ _ ih =>
      simp only [List.length_cons]
      omega

/-- There are no failures if no entity is refused. -/
theorem failed_eq_nil_iff (h : Accounts b out es files failed) :
    failed = [] ↔ ∀ e ∈ es, ∃ text, b.emit [e] = .ok text := by
  induction h with
  | nil => exact iff_of_true rfl (List.forall_mem_nil _)
  | written hemit _ ih => rw [ih, List.forall_mem_cons, and_iff_right ⟨_, hemit⟩]
  | refused hemit _ ih =>
      refine iff_of_false (List.cons_ne_nil _ _) fun hall => ?_
      obtain ⟨text, htext⟩ := hall _ List.mem_cons_self
      rw [hemit] at htext
      contradiction

end Accounts

namespace Job

variable {j : Job} {es : List Entity}

/-! ## One entity -/

section Step

variable {σ : Type} (write : Writer (StateM σ)) (u : σ) (done : Summary) (rest : List Step)

/-- **What becomes of one entity**: its file is written, its refusal is told, or the job ends. -/
theorem run_perform_entityStep (j : Job) (e : Entity) :
    (perform write done (j.entityStep e :: rest)).run u =
      match j.backend.emit [e] with
      | .ok text =>
        match (write (Path.withSuffix j.out e.name j.backend.suffix) text).run u with
        | (.ok (), u') =>
          (perform write (done.addFile
            ⟨Path.withSuffix j.out e.name j.backend.suffix, [e.name]⟩) rest).run u'
        | (.error fault, u') => (.error (.write (some e.name) fault), u')
      | .error cause =>
        if j.keepGoing then (perform write (done.addFailed ⟨e.name, cause.message⟩) rest).run u
        else (.error (.emit cause), u) := by
  rw [entityStep]
  cases j.backend.emit [e] with
  | ok text => exact run_perform_write write u _ text (some e.name)
  | error cause =>
      cases j.keepGoing with
      | true => rfl
      | false => rfl

end Step

/-! ## All entities -/

section Run

variable {σ : Type} {write : Writer (StateM σ)} {u u' : σ} {done s : Summary}

/-- **A job that ends well accounts for all entities**, and leaves the rest of the summary alone. -/
theorem accounts_of_perform
    (h : (perform write done (es.map j.entityStep)).run u = (.ok s, u')) :
    ∃ files failed, Accounts j.backend j.out es files failed ∧
      s = { done with files := done.files ++ files, failed := done.failed ++ failed } ∧
      (j.keepGoing = false → failed = []) := by
  induction es generalizing u done with
  | nil =>
      obtain ⟨hs, -⟩ := Prod.mk.inj h
      obtain rfl := Except.ok.inj hs
      exact ⟨[], [], .nil, by simp only [List.append_nil], fun _ => rfl⟩
  | cons e es ih =>
      rw [List.map_cons, run_perform_entityStep] at h
      cases hemit : j.backend.emit [e] with
      | ok text =>
          simp only [hemit] at h
          split at h
          case h_1 u₁ _ =>
            obtain ⟨files, failed, haccounts, rfl, hstop⟩ := ih h
            refine ⟨_, failed, haccounts.written hemit, ?_, hstop⟩
            simp only [Summary.addFile, List.append_assoc, List.singleton_append]
          case h_2 =>
            -- the file cannot be written, and the job has not ended well
            exact absurd (Prod.mk.inj h).1 (by simp)
      | error cause =>
          simp only [hemit] at h
          by_cases hgoing : j.keepGoing = true
          · -- the refusal is told, and the job goes on
            rw [if_pos hgoing] at h
            obtain ⟨files, failed, haccounts, rfl, -⟩ := ih h
            refine ⟨files, _, haccounts.refused hemit, ?_, fun hstop => ?_⟩
            · simp only [Summary.addFailed, List.append_assoc, List.singleton_append]
            · rw [hgoing] at hstop
              contradiction
          · -- the refusal ends the job
            rw [if_neg hgoing] at h
            exact absurd (Prod.mk.inj h).1 (by simp)

end Run

/-! ## Going on -/

/-- Going on after refusals does not change what is done with an entity that the backend emits. -/
theorem entityStep_of_emit_eq_ok {e : Entity} {text : String} (on : Bool)
    (hemit : j.backend.emit [e] = .ok text) :
    { j with keepGoing := on }.entityStep e = j.entityStep e := by
  rw [entityStep, entityStep, hemit]

/-- If no entity is refused, the steps are those of a job that does not go on. -/
theorem steps_of_emit_eq_ok (hlayout : j.layout = .perEntity)
    (hemit : ∀ e ∈ es, ∃ text, j.backend.emit [e] = .ok text) (on : Bool) :
    { j with keepGoing := on }.steps es = j.steps es := by
  rw [steps_perEntity (j := { j with keepGoing := on }) hlayout, steps_perEntity hlayout]
  refine List.map_congr_left fun e he => ?_
  obtain ⟨text, htext⟩ := hemit e he
  exact entityStep_of_emit_eq_ok on htext

/-- **Every entity is accounted for.** A job that writes the entities of a schema into files of their own
and ends well has a file for each entity that the backend emits alone and a failure, with the words of
the refusal, for each of the others, both in the order of the entities; so the entities in the files and
the failures are as many as the entities of the schema. If the job is not to go on after a refusal, it
ends well without failures only. If no entity is refused, going on makes no difference, neither to how the
job ends nor to what it leaves behind. -/
theorem every_entity_accounted (j : Job) (hlayout : j.layout = .perEntity) {σ : Type}
    (write : Writer (StateM σ)) (skipped : List SkippedInput) (es : List Entity) :
    let run (on : Bool) (u : σ) :=
      (perform write (.start j.command skipped) ({ j with keepGoing := on }.steps es)).run u
    (∀ on u u' s, run on u = (.ok s, u') →
      s.command = j.command ∧ s.skipped = skipped ∧ Accounts j.backend j.out es s.files s.failed ∧
      s.entityCount + s.failed.length = es.length ∧ (on = false → s.failed = [])) ∧
    ((∀ e ∈ es, ∃ text, j.backend.emit [e] = .ok text) → ∀ u, run true u = run false u) ∧
    ∀ u u' s, s.failed = [] → (run true u = (.ok s, u') ↔ run false u = (.ok s, u')) := by
  intro run
  have hwell : ∀ on u u' s, run on u = (.ok s, u') →
      s.command = j.command ∧ s.skipped = skipped ∧ Accounts j.backend j.out es s.files s.failed ∧
      s.entityCount + s.failed.length = es.length ∧ (on = false → s.failed = []) := by
    intro on u u' s h
    simp only [run, steps_perEntity (j := { j with keepGoing := on }) hlayout] at h
    obtain ⟨files, failed, haccounts, rfl, hstop⟩ := accounts_of_perform h
    refine ⟨rfl, rfl, haccounts, ?_, hstop⟩
    rw [Summary.entityCount_eq]
    exact haccounts.length
  have hsame : (∀ e ∈ es, ∃ text, j.backend.emit [e] = .ok text) → ∀ u, run true u = run false u := by
    intro hemit u
    simp only [run, steps_of_emit_eq_ok hlayout hemit]
  refine ⟨hwell, hsame, fun u u' s hfailed => ?_⟩
  -- a run that ends well without failures shows that no entity is refused
  have hemit : ∀ on, run on u = (.ok s, u') → ∀ e ∈ es, ∃ text, j.backend.emit [e] = .ok text := by
    intro on h
    obtain ⟨-, -, haccounts, -⟩ := hwell on u u' s h
    exact haccounts.failed_eq_nil_iff.mp hfailed
  exact ⟨fun h => hsame (hemit true h) u ▸ h, fun h => (hsame (hemit false h) u).trans h⟩

/-- Three tables in an empty tree of files. The table `2fa`, which is no name for a structure, is the one
failure of the job that goes on. Without it the job that goes on and the one that does not are the same. -/
theorem every_entity_accounted_user_post :
    let j : Job := ⟨"model", ⟨[], "mysql", ⟨[], []⟩, false⟩, .standard, .model ⟨"model", .none⟩,
      "./model", .perEntity, true⟩
    let entity (name : String) : Entity :=
      ⟨name, "", ⟨name, "", none, none, none, [], [], []⟩, [], [], []⟩
    let run (on : Bool) (names : List String) :=
      (perform treeWriter (.start "model" [])
        ({ j with keepGoing := on }.steps (names.map entity))).run ⟨[], []⟩
    let files : List WrittenFile := [⟨"./model/user.go", ["user"]⟩, ⟨"./model/post.go", ["post"]⟩]
    let failed : List FailedEntity := [⟨"2fa", "2fa: `2fa` is not a valid Go struct name"⟩]
    (run true ["user", "2fa", "post"]).1 = .ok ⟨"model", files, [], failed⟩ ∧
      Accounts j.backend j.out (["user", "2fa", "post"].map entity) files failed ∧
      run true ["user", "post"] = run false ["user", "post"] ∧
      (run true ["user", "post"]).1 = .ok ⟨"model", files, [], []⟩ := by
  intro j entity run files failed
  have hpair : ∀ on names s, (run on names).1 = .ok s → run on names = (.ok s, (run on names).2) :=
    fun _ _ _ h => Prod.ext h rfl
  have hemit : ∀ e ∈ ["user", "post"].map entity, (j.backend.emit [e]).isOk = true := by
    decide +kernel
  have hresult : (run true ["user", "2fa", "post"]).1 = .ok ⟨"model", files, [], failed⟩ := by
    decide +kernel
  have hplain : (run false ["user", "post"]).1 = .ok ⟨"model", files, [], []⟩ := by
    decide +kernel
  obtain ⟨hwell, -, -⟩ :=
    every_entity_accounted j rfl treeWriter [] (["user", "2fa", "post"].map entity)
  obtain ⟨-, hsame, hends⟩ := every_entity_accounted j rfl treeWriter [] (["user", "post"].map entity)
  obtain ⟨-, -, haccounts, -⟩ := hwell true ⟨[], []⟩ (run true ["user", "2fa", "post"]).2
    ⟨"model", files, [], failed⟩ (hpair _ _ _ hresult)
  have hgoing := (hends ⟨[], []⟩ (run false ["user", "post"]).2 ⟨"model", files, [], []⟩ rfl).mpr
    (hpair _ _ _ hplain)
  exact ⟨hresult, haccounts, hsame (fun e he => exists_eq_ok_of_isOk (hemit e he)) ⟨[], []⟩,
    congrArg Prod.fst hgoing⟩

end Job

end Tablewright
