import Tablewright.Job.Writing
import Tablewright.Proofs.Job.Source

/-! # Jobs under other options

A job finds the same tables under all options and fails for the same reasons before it writes. What
it does with the tables is decided by what its backend reads of the entities that the options make of
them: a backend that reads a part of them only (`Backend.Reads`) takes the same steps for entities that
agree on that part.

* `Job.steps_congr`: entities that agree on what is read give the same steps.
* `Resolved.map_loaded_congr`: what is loaded agrees on a part that is built the same.
* `Job.run_withOptions_congr`: so a job does the same under options that agree on what is read. -/

namespace Tablewright

/-! ## What a backend reads -/

/-- A backend reads a part of the entities of some class only, and the part tells their names. -/
structure Artifact.Backend.Reads {α : Type} (b : Artifact.Backend) (P : Entity → Prop)
    (part : Entity → α) : Prop where
  name_eq : ∀ {e e' : Entity}, P e → P e' → part e = part e' → e.name = e'.name
  emit_eq : ∀ {es es' : List Entity}, (∀ e ∈ es, P e) → (∀ e ∈ es', P e) →
    es.map part = es'.map part → b.emit es = b.emit es'

namespace Job

variable {α : Type} {j : Job} {P : Entity → Prop} {part : Entity → α} {es es' : List Entity}

/-- Entities that agree in what the backend reads have the same merged step. -/
theorem mergedStep_congr (hj : j.backend.Reads P part) (name : String) (hes : ∀ e ∈ es, P e)
    (hes' : ∀ e ∈ es', P e) (h : es.map part = es'.map part) :
    j.mergedStep name es = j.mergedStep name es' := by
  have hnames : es.map Entity.name = es'.map Entity.name :=
    map_eq_map_of_imp (fun e he e' he' => hj.name_eq (hes e he) (hes' e' he')) h
  rw [mergedStep, mergedStep, hj.emit_eq hes hes' h, hnames]

/-- Two entities that agree in what the backend reads have the same step. -/
theorem entityStep_congr (hj : j.backend.Reads P part) {e e' : Entity} (he : P e) (he' : P e')
    (h : part e = part e') : j.entityStep e = j.entityStep e' := by
  have hemit : j.backend.emit [e] = j.backend.emit [e'] :=
    hj.emit_eq (List.forall_mem_singleton.mpr he) (List.forall_mem_singleton.mpr he')
      (congrArg (fun a => [a]) h)
  rw [entityStep, entityStep, hemit, hj.name_eq he he' h]

/-- **The steps depend on what is read only.** -/
theorem steps_congr (hj : j.backend.Reads P part) (hes : ∀ e ∈ es, P e) (hes' : ∀ e ∈ es', P e)
    (h : es.map part = es'.map part) : j.steps es = j.steps es' := by
  rw [steps, steps]
  cases j.layout with
  | merged name =>
      show [j.mergedStep name es] = [j.mergedStep name es']
      rw [mergedStep_congr hj name hes hes' h]
  | perEntity =>
      exact map_eq_map_of_imp
        (fun e he e' he' hpart => entityStep_congr hj (hes e he) (hes' e' he') hpart) h

end Job

/-! ## What is loaded -/

/-- Sorting entities sorts what is read of them, if that tells their names. -/
theorem Schema.map_sorted {α : Type} {part : Entity → α} (nameOf : α → String) {s : Schema}
    (h : ∀ e ∈ s.entities, nameOf (part e) = e.name) :
    s.sorted.entities.map part =
      (s.entities.map part).mergeSort fun a b => decide (nameOf a ≤ nameOf b) := by
  refine List.map_mergeSort fun e he e' he' => ?_
  rw [h e he, h e' he']

/-- What is loaded agrees on a part that is built the same and tells the names. -/
theorem Resolved.map_loaded_congr {α : Type} {part : Entity → α} (nameOf : α → String)
    {o o' : Options} (hname : ∀ e, nameOf (part e) = e.name)
    (hpart : ∀ t kinds, part (.ofKinds o t kinds) = part (.ofKinds o' t kinds)) (x : Resolved)
    (sort : Bool) :
    (x.loaded o sort).schema.entities.map part = (x.loaded o' sort).schema.entities.map part := by
  have hschema : (Schema.ofKinds o x.database x.kinds).entities.map part =
      (Schema.ofKinds o' x.database x.kinds).entities.map part := by
    simp only [Schema.ofKinds, List.map_zipWith, hpart]
  cases sort with
  | false => exact hschema
  | true =>
      show (Schema.sorted _).entities.map part = (Schema.sorted _).entities.map part
      rw [Schema.map_sorted nameOf fun e _ => hname e, Schema.map_sorted nameOf fun e _ => hname e,
        hschema]

/-! ## Runs -/

namespace Job

/-- The job under other options. -/
def withOptions (j : Job) (o : Options) : Job :=
  { j with options := o }

/-- Options do not show in the steps for given entities. -/
@[simp] theorem steps_withOptions (j : Job) (o : Options) (es : List Entity) :
    (j.withOptions o).steps es = j.steps es := by
  rfl

/-- A job fails with what keeps its tables from being found, or does the steps for them. -/
theorem run_eq [Pattern.Library] {m : Type → Type} [Monad m] (j : Job)
    (read : String → Except FileFault String) (write : Writer m) (describe : Json.Fault → String) :
    j.run read write describe =
      match j.source.resolve read .builtin with
      | .error e => return .error e
      | .ok x =>
        perform write
          (.start j.command (x.skipped.map fun (path, cause) => ⟨path, cause.message describe path⟩))
          (j.steps (x.loaded j.options j.source.sort).schema.entities) := by
  rw [run, Source.load_eq]
  cases j.source.resolve read .builtin with
  | error e => rfl
  | ok x => rfl

/-- **A job does the same under options that give the same steps**, if the documents are the same. -/
theorem run_withOptions_congr [Pattern.Library] {m : Type → Type} [Monad m] {j : Job}
    {read read' : String → Except FileFault String} {o o' : Options}
    (hread : ∀ p ∈ j.source.inputs, read' p = read p)
    (hsteps : ∀ (x : Resolved) (mapper : Dialect.Mapper), x.database.kinds mapper = .ok x.kinds →
      j.steps (x.loaded o j.source.sort).schema.entities =
        j.steps (x.loaded o' j.source.sort).schema.entities)
    (write : Writer m) (describe : Json.Fault → String) :
    (j.withOptions o).run read' write describe = (j.withOptions o').run read write describe := by
  -- both runs find the same tables and fail for the same reasons
  have hresolve : j.source.resolve read' .builtin = j.source.resolve read .builtin :=
    Source.resolve_congr _ hread
  rw [run_eq, run_eq]
  show (match j.source.resolve read' .builtin with | .error e => _ | .ok x => _) = _
  rw [hresolve]
  show _ = match j.source.resolve read .builtin with | .error e => _ | .ok x => _
  cases hx : j.source.resolve read .builtin with
  | error e => rfl
  | ok x =>
      obtain ⟨mapper, hkinds⟩ := Source.kinds_of_resolve_eq hx
      show perform write _ ((j.withOptions o).steps (x.loaded o j.source.sort).schema.entities) =
        perform write _ ((j.withOptions o').steps (x.loaded o' j.source.sort).schema.entities)
      rw [steps_withOptions, steps_withOptions, hsteps x mapper hkinds]
      rfl

end Job

end Tablewright
