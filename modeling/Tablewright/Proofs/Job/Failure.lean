import Tablewright.Proofs.Artifact.Acceptance
import Tablewright.Proofs.Job.Artifacts

/-! # Jobs that fail

How far a job has come when it fails tells what it has done to the tree of files. Nothing is written
before all documents are taken in and all tables are built (`tree_eq_of_run_eq_error`), a file with all
entities is written if no entity is refused (`run_merged_of_refused`), and without going on after a
refusal the entities before the first one that is refused have their files, and no others
(`run_perEntity_of_refused`). -/

namespace Tablewright

open CommandLine (treeWriter)

namespace Job

variable {j : Job} {read : String → Except FileFault String} {describe : Json.Fault → String}
  {t t' : FileTree} {loaded : Loaded}

/-- **A job that fails for anything but a refusal or a file that cannot be written changes nothing.** -/
theorem tree_eq_of_run_eq_error [Pattern.Library] {e : JobError}
    (h : ((j.run read treeWriter describe).run t).1 = .error e)
    (hemit : ∀ cause, e ≠ .emit cause) (hwrite : ∀ owner fault, e ≠ .write owner fault) :
    ((j.run read treeWriter describe).run t).2 = t := by
  cases hload : j.source.load read .builtin j.options with
  | error e' =>
      rw [run, hload]
      rfl
  | ok loaded =>
      rw [run_eq_perform hload] at h
      rcases emit_or_write_of_perform_eq_error h with ⟨cause, hcause⟩ | ⟨owner, fault, hfault⟩
      · exact absurd hcause (hemit cause)
      · exact absurd hfault (hwrite owner fault)

/-- **One file for all entities is not written if an entity is refused**, whether or not the job is to
go on. -/
theorem run_merged_of_refused [Pattern.Library] {name : String} {e : Entity} (t : FileTree)
    (describe : Json.Fault → String) (hlayout : j.layout = .merged name)
    (hload : j.source.load read .builtin j.options = .ok loaded) (he : e ∈ loaded.schema.entities)
    (hrefused : ¬ ∃ text, j.backend.emit [e] = .ok text) :
    ∃ cause, (j.run read treeWriter describe).run t = (.error (.emit cause), t) := by
  have hsteps : j.steps loaded.schema.entities = [j.mergedStep name loaded.schema.entities] := by
    rw [steps, hlayout]
  rw [run_eq_perform hload, hsteps, mergedStep]
  cases hemit : j.backend.emit loaded.schema.entities with
  | error cause => exact ⟨cause, rfl⟩
  | ok text => exact absurd ((j.backend.accepts_iff _).mp ⟨text, hemit⟩ e he) hrefused

/-- An entity that the backend accepts does not stop a run. -/
theorem stops_entityStep_of_accepted {e : Entity} (h : ∃ text, j.backend.emit [e] = .ok text) :
    (j.entityStep e).stops = false := by
  obtain ⟨text, htext⟩ := h
  rw [entityStep, htext]
  rfl

/-- **The entities before the first one that is refused have their files, and no others**, if the job
is not to go on after a refusal and these files can be written. -/
theorem run_perEntity_of_refused [Pattern.Library] {e : Entity} {pre post : List Entity}
    {cause : Artifact.EmitError} (describe : Json.Fault → String) (hlayout : j.layout = .perEntity)
    (hstop : j.keepGoing = false)
    (hload : j.source.load read .builtin j.options = .ok loaded)
    (hentities : loaded.schema.entities = pre ++ e :: post)
    (hpre : ∀ e' ∈ pre, ∃ text, j.backend.emit [e'] = .ok text)
    (hrefused : j.backend.emit [e] = .error cause)
    (hwritten : t.writeAll ((j.artifacts pre).map placed) = .ok t') :
    (j.run read treeWriter describe).run t = (.error (.emit cause), t') := by
  have hlast : j.entityStep e = .stop cause := by
    rw [entityStep, hrefused]
    show (if j.keepGoing = true then _ else _) = _
    rw [hstop]
    rfl
  have hstops : ∀ x ∈ j.steps pre, x.stops = false := by
    intro x hx
    rw [steps_perEntity hlayout] at hx
    obtain ⟨e', he', rfl⟩ := List.mem_map.mp hx
    exact stops_entityStep_of_accepted (hpre e' he')
  -- what comes behind the refusal is never reached
  have hall : j.steps loaded.schema.entities = j.steps pre ++ .stop cause :: j.steps post := by
    simp only [steps_perEntity hlayout, hentities, List.map_append, List.map_cons, hlast]
  rw [← filterMap_artifact?_steps hlayout] at hwritten
  rw [run_eq_perform hload, hall, perform_append hstops hwritten]
  rfl

end Job

end Tablewright
