import Tablewright.Artifact.TableScript
import Tablewright.Proofs.Entity.Build

/-! # The statements of table scripts

A table script is made from what an entity keeps of its table, not from the table itself. The two
agree as long as the entity is complete (`Entity.Complete`): its fields have the columns of the table
behind them, and its indexes and foreign keys are those of the table. An entity that is built with
its foreign keys is complete, and nothing that may be done to it later (`Entity.Rework`) touches what
it keeps.

* `Entity.Complete.reworkAll`: complete entities stay complete, through any sequence of changes.
* `createTable_eq`: the statement of a complete entity is the definition of its table.
* `createTable_build`: so it is for every table, whatever was done to its entity. -/

namespace Tablewright

/-! ## Complete entities -/

namespace Entity

/-- An entity that keeps all of its table. -/
structure Complete (e : Entity) : Prop where
  name_eq : e.name = e.table.name
  columns_eq : e.fields.map Field.column? = e.table.columns.map some
  indexes_eq : e.indexes = e.table.indexes.map EntityIndex.ofIndex
  foreignKeys_eq : e.foreignKeys = e.table.foreignKeys.map (.ofKey e.table.name)

/-- Something that may be done to an entity after it is built. -/
inductive Rework where
  /-- Apply options to the field at a place, if there is one. -/
  | transform (place : Nat) (o : Options)
  /-- Resolve the names of the fields. -/
  | resolveNames (escapes : List String)

/-- Do something to an entity. -/
def rework (e : Entity) : Rework → Entity
  | .transform place o => { e with fields := e.fields.modify place (Field.transform o) }
  | .resolveNames escapes => e.resolveNames escapes

/-- Do several things to an entity, one after the other. -/
def reworkAll (e : Entity) (rs : List Rework) : Entity :=
  rs.foldl rework e

/-- A change is one of the fields only. -/
theorem rework_eq (e : Entity) (r : Rework) : e.rework r = { e with fields := (e.rework r).fields } := by
  cases r with
  | transform place o => rfl
  | resolveNames escapes => rfl

/-- Reworking an entity leaves its table. -/
@[simp] theorem table_rework (e : Entity) (r : Rework) : (e.rework r).table = e.table := by
  rw [rework_eq]

/-- The columns behind the fields stay. -/
theorem columns_rework (e : Entity) (r : Rework) :
    (e.rework r).fields.map Field.column? = e.fields.map Field.column? := by
  cases r with
  | transform place o =>
      refine List.ext_getElem (by simp [rework]) fun i h₁ h₂ => ?_
      by_cases hplace : place = i
      · simp [rework, hplace]
      · simp [rework, hplace]
  | resolveNames escapes => exact map_resolveNames (fun x name => rfl) e escapes

/-- A change keeps an entity complete. -/
theorem Complete.rework {e : Entity} (h : e.Complete) (r : Rework) : (e.rework r).Complete := by
  have hcolumns := (columns_rework e r).trans h.columns_eq
  rw [rework_eq]
  exact ⟨h.name_eq, hcolumns, h.indexes_eq, h.foreignKeys_eq⟩

/-- Any history of reworks leaves the table. -/
@[simp] theorem table_reworkAll (e : Entity) (rs : List Rework) :
    (e.reworkAll rs).table = e.table := by
  induction rs generalizing e with
  | nil => rfl
  | cons r rs ih =>
      rw [reworkAll, List.foldl_cons]
      exact (ih (e.rework r)).trans (table_rework e r)

/-- **Complete entities stay complete**, whatever is done to them. -/
theorem Complete.reworkAll {e : Entity} (h : e.Complete) (rs : List Rework) :
    (e.reworkAll rs).Complete := by
  induction rs generalizing e with
  | nil => exact h
  | cons r rs ih => exact ih (h.rework r)

/-- Complete entities of one table have one name. -/
theorem Complete.name_congr {e e' : Entity} (he : e.Complete) (he' : e'.Complete)
    (h : e.table = e'.table) : e.name = e'.name := by
  rw [he.name_eq, he'.name_eq, h]

/-- An entity that is built with its foreign keys is complete. -/
theorem complete_ofKinds {o : Options} {t : Table} {kinds : List ColumnKind}
    (ho : o.enableForeignKey = true) (h : kinds.length = t.columns.length) :
    (ofKinds o t kinds).Complete where
  name_eq := rfl
  columns_eq := columns_ofKinds h
  indexes_eq := rfl
  foreignKeys_eq := by
    show (if o.enableForeignKey then _ else _) = _
    rw [ho, if_pos rfl]
    rfl

end Entity

/-! ## The statement of a table -/

namespace Artifact.TableScript

/-- The statement that creates a table; one without columns cannot be created. -/
def statement (t : Table) : Except EmitError String :=
  if t.columns = [] then .error ⟨t.name, .noColumns⟩ else .ok t.definition

/-- **The statement of a complete entity is that of its table.** -/
theorem createTable_eq {e : Entity} (h : e.Complete) : createTable e = statement e.table := by
  -- what the entity keeps is read back as what its table has, part by part
  have hcolumns : e.fields.filterMap (·.column?) = e.table.columns := by
    have hmap := congrArg (List.filterMap id) h.columns_eq
    rw [List.filterMap_map, List.filterMap_map] at hmap
    simpa using hmap
  have hindexes : e.indexes.filterMap (·.index?) = e.table.indexes := by
    rw [h.indexes_eq, List.filterMap_map]
    exact List.filterMap_some
  have hkeys : e.foreignKeys.filterMap (·.key?) = e.table.foreignKeys := by
    rw [h.foreignKeys_eq, List.filterMap_map]
    exact List.filterMap_some
  rw [createTable, statement, hcolumns, hindexes, hkeys]
  cases hc : e.table.columns with
  | nil => rw [if_pos rfl, h.name_eq]
  | cons c cs =>
      rw [if_neg (List.cons_ne_nil c cs), Table.definition, hc]

/-- **Every table whose raw types are known gets its own definition**, whatever is done to its entity
after it is built with its foreign keys. -/
theorem createTable_build {m : Dialect.Mapper} {o : Options} {t : Table}
    (ho : o.enableForeignKey = true)
    (ht : ∀ c ∈ t.columns, ∃ kind, m.kindOf c.rawType = .ok kind) :
    ∃ e, Entity.build m o t = .ok e ∧ ∀ rs, createTable (e.reworkAll rs) = statement t := by
  obtain ⟨kinds, hkinds⟩ := Table.exists_kinds_eq ht
  refine ⟨Entity.ofKinds o t kinds, ?_, fun rs => ?_⟩
  · rw [Entity.build_eq, hkinds]
    rfl
  · have hcomplete := Entity.complete_ofKinds ho (Table.length_kinds hkinds)
    rw [createTable_eq (hcomplete.reworkAll rs), Entity.table_reworkAll]
    rfl

/-- Complete entities of the same tables give the same script. -/
theorem emit_congr {s : TableScript} {es es' : List Entity} (hes : ∀ e ∈ es, e.Complete)
    (hes' : ∀ e ∈ es', e.Complete) (h : es.map Entity.table = es'.map Entity.table) :
    s.emit es = s.emit es' := by
  have hstatements : es.map createTable = es'.map createTable := by
    refine map_eq_map_of_imp (fun e he e' he' htable => ?_) h
    rw [createTable_eq (hes e he), createTable_eq (hes' e' he'), htable]
  -- the first refusal is found among the statements, so it is the same too
  have hmapM : es.mapM createTable = es'.mapM createTable := by
    have hid := congrArg (List.mapM id) hstatements
    rwa [List.mapM_map, List.mapM_map] at hid
  rw [emit, emit, hmapM]

end Artifact.TableScript

end Tablewright
