import Tablewright.CommandLine.Run
import Tablewright.Pattern.Engine
import Tablewright.Proofs.Job.TableScripts

/-! # The command for table scripts

The command keeps the foreign keys whatever is said about them, so the statements that it writes are
the definitions of the tables, and neither the switches that change options nor the configured
options have a part in them.

* `Invocation.run_sql_congr`: runs that differ in the options only do the same.
* `tableScripts_eq_definitions`: the statements of entities, and of whole runs. -/

namespace Tablewright.CommandLine

open Artifact (TableScript)

/-- The job of the command for table scripts. -/
def sqlJob (a : SourceArguments) (m : MergeArguments) (config : Config) : Job :=
  a.job "sql" { a.overlay.apply config.options with enableForeignKey := true } (.sql ⟨a.header⟩)
    (a.outOr config.sql.out "sql") (m.layout config.sql.merge config.sql.filename "create_table")

/-- An invocation that finds its configuration has the job of its command. -/
theorem Invocation.job_sql_eq {i : Invocation} {read : String → Except FileFault String}
    {a : SourceArguments} {m : MergeArguments} {c : Config} (hi : i.command = .sql a m)
    (hc : Config.load read i.config = .ok c) : i.job read = .ok (sqlJob a m c) := by
  rw [Invocation.job, hc, hi]
  rfl

/-- Invocations whose jobs do the same, and that ask for one form of summary, do the same. -/
theorem Invocation.run_congr [Pattern.Library] {μ : Type → Type} [Monad μ] {i i' : Invocation}
    {read read' : String → Except FileFault String} {write : Writer μ}
    {describe : Json.Fault → String} {j j' : Job} (hj : i.job read = .ok j)
    (hj' : i'.job read' = .ok j') (hform : i'.form = i.form)
    (hrun : j'.run read' write describe = j.run read write describe) :
    i'.run read' write describe = i.run read write describe := by
  simp only [Invocation.run, hj, hj', hrun, hform]

/-- Another overlay and other configured options give the same job under other options. -/
theorem sqlJob_withOptions (a : SourceArguments) (v : Overlay) (m : MergeArguments)
    {c c' : Config} (hc : c'.sql = c.sql) :
    sqlJob { a with overlay := v } m c' =
      (sqlJob a m c).withOptions
        { v.apply c'.options with enableForeignKey := true } := by
  rw [sqlJob, hc]
  rfl

/-- **Runs that differ in the options only do the same.** -/
theorem Invocation.run_sql_congr [Pattern.Library] {μ : Type → Type} [Monad μ] {i i' : Invocation}
    {read read' : String → Except FileFault String} {a : SourceArguments} {v : Overlay}
    {m : MergeArguments} {c c' : Config} (hi : i.command = .sql a m)
    (hi' : i'.command = .sql { a with overlay := v } m) (hform : i'.form = i.form)
    (hc : Config.load read i.config = .ok c) (hc' : Config.load read' i'.config = .ok c')
    (hsql : c'.sql = c.sql) (hread : ∀ p ∈ a.source.inputs, read' p = read p)
    (write : Writer μ) (describe : Json.Fault → String) :
    i'.run read' write describe = i.run read write describe := by
  refine run_congr (job_sql_eq hi hc) (job_sql_eq hi' hc') hform ?_
  rw [sqlJob_withOptions a v m hsql]
  exact Job.run_withOptions rfl rfl rfl hread write describe

/-- **Table scripts hold the definitions of the tables.** Every table whose raw types are known gets
its own definition, or is refused if it has no columns, whatever was done to its entity after it was
built with its foreign keys. So runs of the command that take in the same documents, select the same
tables and lay out files in the same way do the same, whatever the switches that change options and
the configured options are. -/
theorem tableScripts_eq_definitions [Pattern.Library] :
    (∀ (m : Dialect.Mapper) (o : Options) (t : Table), o.enableForeignKey = true →
      (∀ c ∈ t.columns, ∃ kind, m.kindOf c.rawType = .ok kind) →
        ∃ e, Entity.build m o t = .ok e ∧ ∀ rs : List Entity.Rework,
          TableScript.createTable (e.reworkAll rs) =
            if t.columns = [] then .error ⟨t.name, .noColumns⟩ else .ok t.definition) ∧
      (∀ (μ : Type → Type) [Monad μ] (i i' : Invocation) (a : SourceArguments) (v : Overlay)
        (m : MergeArguments) (c c' : Config) (read read' : String → Except FileFault String)
        (write : Writer μ) (describe : Json.Fault → String),
        i.command = .sql a m → i'.command = .sql { a with overlay := v } m → i'.form = i.form →
          Config.load read i.config = .ok c → Config.load read' i'.config = .ok c' →
            c'.sql = c.sql → (∀ p ∈ a.source.inputs, read' p = read p) →
              i'.run read' write describe = i.run read write describe) := by
  refine ⟨fun m o t ho ht => ?_, ?_⟩
  · exact TableScript.createTable_build ho ht
  · intro μ _ i i' a v m c c' read read' write describe hi hi' hform hc hc' hsql hread
    exact Invocation.run_sql_congr hi hi' hform hc hc' hsql hread write describe

/-- The table `user` gets its definition although its field is transformed and renamed later, and
running the command for it writes the same with `--enable-int` as without. -/
theorem tableScripts_eq_definitions_user :
    let t : Table :=
      { (default : Table) with
        name := "user", columns := [{ (default : Column) with name := "id", rawType := "int" }] }
    let o : Options := { Options.standard with enableForeignKey := true }
    let a : SourceArguments :=
      { (default : SourceArguments) with source := ⟨["facts.json"], "mysql", ⟨[], []⟩, false⟩ }
    let i : Invocation := ⟨.table, none, .sql a ⟨false, none⟩⟩
    let i' : Invocation :=
      ⟨.table, none, .sql { a with overlay := { a.overlay with enableInt := true } } ⟨false, none⟩⟩
    let read (path : String) : Except FileFault String :=
      if path = "facts.json" then
        .ok (String.ofList (Database.format.encode ⟨"db", [t]⟩).compact)
      else .error .missing
    let write : Writer (StateM (List (String × String))) :=
      fun path text => do modify (·.concat (path, text)); return .ok ()
    (∃ e, Entity.build Dialect.mysql o t = .ok e ∧
      TableScript.createTable (e.reworkAll [.transform 0 .standard, .resolveNames ["Id"]]) =
        .ok t.definition) ∧
      ∀ describe, i'.run read write describe = i.run read write describe := by
  intro t o a i i' read write
  obtain ⟨hstatement, hrun⟩ := tableScripts_eq_definitions
  have hknown : ∀ c ∈ t.columns, ∃ kind, Dialect.mysql.kindOf c.rawType = .ok kind := by
    intro c hc
    rw [List.mem_singleton.mp hc]
    exact ⟨.int32, rfl⟩
  obtain ⟨e, he, hscript⟩ := hstatement Dialect.mysql o t rfl hknown
  refine ⟨⟨e, he, hscript _⟩, fun describe => ?_⟩
  have hconfig : Config.load read none = .ok .standard := by
    rfl
  exact hrun _ i i' a _ ⟨false, none⟩ _ _ read read write describe rfl rfl rfl hconfig hconfig rfl
    (fun p hp => rfl)

end Tablewright.CommandLine
