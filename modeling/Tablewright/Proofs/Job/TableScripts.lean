import Tablewright.Proofs.Artifact.TableScript
import Tablewright.Proofs.Job.Options

/-! # Jobs that write table scripts

The entities of a job that keeps the foreign keys are complete, so table scripts are made from the
tables alone, and these do not depend on the options.

* `Schema.complete_of_build_eq`, `Resolved.complete_loaded`: what such a job loads is complete.
* `Artifact.TableScript.reads_table`: of complete entities nothing but the tables is read.
* `Job.run_withOptions`: so the options do not matter. -/

namespace Tablewright

/-! ## The loaded tables -/

/-- A schema that is built with the foreign keys has complete entities, of the tables in order. -/
theorem Schema.complete_of_build_eq {m : Dialect.Mapper} {o : Options} {d : Database} {s : Schema}
    (ho : o.enableForeignKey = true) (h : Schema.build m o d = .ok s) :
    (∀ e ∈ s.entities, e.Complete) ∧ s.entities.map Entity.table = d.tables := by
  -- tables are built one by one, so the same is shown of one table first
  have hbuild : ∀ t e, Entity.build m o t = .ok e → e.Complete ∧ e.table = t := by
    intro t e he
    rw [Entity.build_eq] at he
    cases hkinds : t.kinds m with
    | error cause =>
        rw [hkinds] at he
        contradiction
    | ok kinds =>
        rw [hkinds] at he
        obtain rfl := Except.ok.inj he
        exact ⟨Entity.complete_ofKinds ho (Table.length_kinds hkinds), rfl⟩
  rw [Schema.build] at h
  obtain ⟨es, hes, h⟩ := bind_eq_ok_iff.mp h
  obtain rfl := Except.ok.inj h
  refine ⟨fun e he => ?_, ?_⟩
  · obtain ⟨t, -, ht⟩ := exists_mem_of_mapM_eq_ok hes he
    exact (hbuild t e ht).1
  · rw [map_eq_of_mapM_eq_ok (k := id) (fun t e ht => (hbuild t e ht).2) hes, List.map_id]

/-- The tables in the order of their names; those of one name keep theirs. -/
def Table.sorted (ts : List Table) : List Table :=
  ts.mergeSort fun t u => decide (t.name ≤ u.name)

/-- **What is loaded with the foreign keys is complete**, and its tables are the same whatever the
other options are. -/
theorem Resolved.complete_loaded {x : Resolved} {o : Options} {m : Dialect.Mapper} (sort : Bool)
    (ho : o.enableForeignKey = true) (hx : x.database.kinds m = .ok x.kinds) :
    (∀ e ∈ (x.loaded o sort).schema.entities, e.Complete) ∧
      (x.loaded o sort).schema.entities.map Entity.table =
        if sort then Table.sorted x.database.tables else x.database.tables := by
  have hbuild : Schema.build m o x.database = .ok (Schema.ofKinds o x.database x.kinds) := by
    rw [Schema.build_eq, hx]
    rfl
  obtain ⟨hcomplete, htables⟩ := Schema.complete_of_build_eq ho hbuild
  cases sort with
  | false => exact ⟨hcomplete, htables⟩
  | true =>
      refine ⟨fun e he => hcomplete e (List.mem_mergeSort.mp he), ?_⟩
      show (Schema.sorted _).entities.map Entity.table = _
      rw [Schema.map_sorted Table.name fun e he => (hcomplete e he).name_eq.symm, htables,
        if_pos rfl]
      rfl

/-! ## The runs -/

/-- Of complete entities a table script reads nothing but the tables. -/
theorem Artifact.TableScript.reads_table (s : TableScript) :
    (Backend.sql s).Reads Entity.Complete Entity.table where
  name_eq he he' h := he.name_congr he' h
  emit_eq hes hes' h := emit_congr hes hes' h

/-- **A job that writes table scripts does the same under all options** that keep the foreign keys,
if the documents are the same. -/
theorem Job.run_withOptions [Pattern.Library] {m : Type → Type} [Monad m] {j : Job}
    {s : Artifact.TableScript} {read read' : String → Except FileFault String} (hj : j.backend = .sql s) {o : Options}
    (ho : o.enableForeignKey = true) (hjo : j.options.enableForeignKey = true)
    (hread : ∀ p ∈ j.source.inputs, read' p = read p) (write : Writer m)
    (describe : Json.Fault → String) :
    (j.withOptions o).run read' write describe = j.run read write describe := by
  have hreads : j.backend.Reads Entity.Complete Entity.table := hj ▸ s.reads_table
  show _ = (j.withOptions j.options).run read write describe
  refine run_withOptions_congr hread (fun x mapper hkinds => ?_) write describe
  obtain ⟨hcomplete, htables⟩ := Resolved.complete_loaded j.source.sort ho hkinds
  obtain ⟨hcomplete', htables'⟩ := Resolved.complete_loaded j.source.sort hjo hkinds
  exact steps_congr hreads hcomplete hcomplete' (htables.trans htables'.symm)

end Tablewright
