import Tablewright.Job.Basic
import Tablewright.Proofs.Entity.Build

/-! # The tables of a job

What a job loads depends on its options in its last step only. Before it everything that can fail is
done: the dialect is found, the documents are taken in, the tables are selected, and the kinds of
their columns are found (`Source.resolve`). The schema is then put together from what was found
(`Resolved.loaded`).

* `Source.load_eq`: loading is the one part behind the other.
* `Source.resolve_congr`: the first part looks at nothing but the documents. -/

namespace Tablewright

/-- Taking in documents looks at nothing but the files at their paths. -/
theorem Intake.ofPaths_congr {read read' : String → Except FileFault String} {paths : List String}
    (h : ∀ p ∈ paths, read' p = read p) : ofPaths read' paths = ofPaths read paths := by
  have htake : ∀ i, ∀ p ∈ paths, take read' i p = take read i p := by
    intro i p hp
    rw [take, take, document, document, h p hp]
  have hfold : paths.foldl (take read') empty = paths.foldl (take read) empty :=
    List.foldl_ext _ _ _ htake
  rw [ofPaths, ofPaths, hfold]

/-- The selected tables with the kinds of their columns, and what was skipped on the way to them. -/
structure Resolved where
  database : Database
  kinds : List (List ColumnKind)
  skipped : List (String × IntakeError)

/-- The schema that some options make of the tables, in the order of their names if that is asked
for. -/
def Resolved.loaded (r : Resolved) (o : Options) (sort : Bool) : Loaded :=
  let schema := Schema.ofKinds o r.database r.kinds
  ⟨if sort then schema.sorted else schema, r.skipped⟩

/-- The tables that are taken in and selected, with the kinds of their columns. -/
def Source.resolve [Pattern.Library] (s : Source) (read : String → Except FileFault String)
    (r : Dialect.Registry) : Except JobError Resolved := do
  let m ← (r.get s.dialect).mapError .dialect
  let i ← (Intake.ofPaths read s.inputs).mapError .noUsableInput
  let d ← (s.selection.apply i.database).mapError .pattern
  let kinds ← (d.kinds m).mapError .build
  return ⟨d, kinds, i.skipped⟩

/-- **Loading is finding the tables and the kinds of their columns, and going on from there.** -/
theorem Source.load_eq [Pattern.Library] (s : Source) (read : String → Except FileFault String)
    (r : Dialect.Registry) (o : Options) :
    s.load read r o = (s.resolve read r).map (·.loaded o s.sort) := by
  -- the steps up to the last one are the same on both sides
  have hlast (m : Dialect.Mapper) (i : Intake) (d : Database) :
      (do
        let schema ← (Schema.build m o d).mapError JobError.build
        return (⟨if s.sort then schema.sorted else schema, i.skipped⟩ : Loaded)) =
      (·.loaded o s.sort) <$> (do
        let kinds ← (d.kinds m).mapError JobError.build
        return (⟨d, kinds, i.skipped⟩ : Resolved)) := by
    rw [Schema.build_eq]
    cases d.kinds m with
    | error e => rfl
    | ok kinds => rfl
  show _ = (·.loaded o s.sort) <$> s.resolve read r
  rw [Source.load, Source.resolve]
  simp only [hlast, map_bind]

/-- What is found for a job has the kinds that its dialect gives. -/
theorem Source.kinds_of_resolve_eq [Pattern.Library] {s : Source}
    {read : String → Except FileFault String} {r : Dialect.Registry} {x : Resolved} (h : s.resolve read r = .ok x) :
    ∃ m, x.database.kinds m = .ok x.kinds := by
  rw [Source.resolve] at h
  obtain ⟨m, -, h⟩ := bind_eq_ok_iff.mp h
  obtain ⟨i, -, h⟩ := bind_eq_ok_iff.mp h
  obtain ⟨d, -, h⟩ := bind_eq_ok_iff.mp h
  obtain ⟨kinds, hkinds, h⟩ := bind_eq_ok_iff.mp h
  obtain rfl := Except.ok.inj h
  exact ⟨m, mapError_eq_ok_iff.mp hkinds⟩

/-- Finding the tables looks at nothing but the documents. -/
theorem Source.resolve_congr [Pattern.Library] {s : Source}
    {read read' : String → Except FileFault String} (r : Dialect.Registry) (h : ∀ p ∈ s.inputs, read' p = read p) :
    s.resolve read' r = s.resolve read r := by
  rw [Source.resolve, Source.resolve, Intake.ofPaths_congr h]

end Tablewright
