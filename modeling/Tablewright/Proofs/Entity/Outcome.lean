import Tablewright.Proofs.Dialect.RuleTable
import Tablewright.Proofs.Entity.Build

/-! # What becomes of the columns of a database

Building a schema goes through the tables and, in each, through the columns. If the mapper has a kind
for every raw type, each table has its entity and each column its field, in order, and the options
that change fields and the search for their names leave alone what stems from the columns
(`Entity.Describes`). If it has none for some of them, the first such column in the order of the tables,
and of the columns in them, is what the failure is about (`Database.FirstUnmapped`).

* `Entity.describes_of_build`: what an entity tells about its table.
* `Entity.build_eq_error_iff`: the column that a table fails at.
* `Schema.build_outcome`: whether a schema is built, what is in it, and what the failure names. -/

namespace Tablewright

variable {m : Dialect.Mapper} {o : Options}

/-! ## Columns that have a kind -/

/-- Does the mapper have a kind for the column? -/
def Column.IsMapped (m : Dialect.Mapper) (c : Column) : Prop :=
  ∃ kind, m.kindOf c.rawType = .ok kind

instance (m : Dialect.Mapper) (c : Column) : Decidable (c.IsMapped m) :=
  match h : m.kindOf c.rawType with
  | .ok kind => isTrue ⟨kind, h⟩
  | .error _ => isFalse fun ⟨_, hkind⟩ => nomatch h.symm.trans hkind

/-- Does the mapper have a kind for every column of the table? -/
def Table.IsMapped (m : Dialect.Mapper) (t : Table) : Prop :=
  ∀ c ∈ t.columns, c.IsMapped m

instance (m : Dialect.Mapper) (t : Table) : Decidable (t.IsMapped m) :=
  inferInstanceAs (Decidable (∀ c ∈ t.columns, c.IsMapped m))

/-- The column is the first one of the table that the mapper has no kind for. -/
def Table.FirstUnmapped (m : Dialect.Mapper) (t : Table) (c : Column) : Prop :=
  ∃ before after, t.columns = before ++ c :: after ∧ (∀ c' ∈ before, c'.IsMapped m) ∧ ¬c.IsMapped m

/-- The column of the table is the first one of the database that the mapper has no kind for. -/
def Database.FirstUnmapped (m : Dialect.Mapper) (d : Database) (t : Table) (c : Column) : Prop :=
  ∃ front back, d.tables = front ++ t :: back ∧ (∀ t' ∈ front, t'.IsMapped m) ∧ t.FirstUnmapped m c

/-- The first column that the mapper has no kind for is one that it refuses. -/
theorem Database.exists_refusal {d : Database} {t : Table} {c : Column}
    (h : d.FirstUnmapped m t c) : ∃ refusal, m.kindOf c.rawType = .error refusal := by
  obtain ⟨-, -, -, -, -, -, -, -, hc⟩ := h
  cases hkind : m.kindOf c.rawType with
  | ok kind => exact absurd ⟨kind, hkind⟩ hc
  | error refusal => exact ⟨refusal, rfl⟩

/-- A mapper that repeats the raw type in its refusal, as it was given. -/
def Dialect.Mapper.Repeats (m : Dialect.Mapper) : Prop :=
  ∀ raw refusal, m.kindOf raw = .error refusal → refusal.raw = raw

/-- **Every mapper of a rule table repeats the raw type**, with the blanks around it and in the case in
which it was given. -/
theorem Dialect.Mapper.repeats_resolve (dialect : String) (table : List Rule) :
    (Mapper.mk dialect (resolve table)).Repeats :=
  fun _ _ h => raw_of_resolve_eq_error h

/-! ## The field of a column -/

/-- A field tells what its column says. -/
structure Field.Describes (m : Dialect.Mapper) (c : Column) (f : Field) : Prop where
  name : f.name = c.name
  comment : f.comment = c.comment
  nullable : f.nullable = c.nullable
  kind : m.kindOf c.rawType = .ok f.kind

/-- The name of the struct field is not among what it tells. -/
theorem Field.describes_named_iff {c : Column} {f : Field} {goName : String} :
    (f.named goName).Describes m c ↔ f.Describes m c :=
  ⟨fun h => ⟨h.name, h.comment, h.nullable, h.kind⟩, fun h => ⟨h.name, h.comment, h.nullable, h.kind⟩⟩

/-- **The options change nothing of what a field tells about its column.** -/
theorem Field.describes_of_build {t : Table} {c : Column} {f : Field}
    (h : Field.build m o t c = .ok f) : f.Describes m c := by
  rw [Field.build] at h
  cases hkind : m.kindOf c.rawType with
  | error refusal =>
      rw [hkind] at h
      contradiction
  | ok kind =>
      rw [hkind] at h
      obtain rfl := Except.ok.inj h
      exact ⟨name_transform o _, comment_transform o _, nullable_transform o _,
        hkind.trans (congrArg _ (kind_ofKind o t c kind).symm)⟩

/-! ## The entity of a table -/

/-- An entity tells what its table says: one field for each column, one index for each index, with its name
and its columns, and the foreign keys, with all that they say, if they are asked for. -/
structure Entity.Describes (m : Dialect.Mapper) (o : Options) (t : Table) (e : Entity) : Prop where
  name : e.name = t.name
  comment : e.comment = t.comment
  fields : List.Forall₂ (Field.Describes m) t.columns e.fields
  indexes : e.indexes = t.indexes.map fun i => { name := i.name, fields := i.columns, index? := some i }
  foreignKeys : e.foreignKeys =
    if o.enableForeignKey then
      t.foreignKeys.map fun k =>
        { symbol := k.symbol, table := t.name, columns := k.columns, refTable := k.refTable,
          refColumns := k.refColumns, onUpdate := k.onUpdate, onDelete := k.onDelete, key? := some k }
    else []

/-- **What a built entity tells about its table.** -/
theorem Entity.describes_of_build {t : Table} {e : Entity} (h : Entity.build m o t = .ok e) :
    e.Describes m o t := by
  have hfields : List.Forall₂ (Field.Describes m) t.columns e.fields :=
    forall₂_fields_of_build (fun _ _ _ => Field.describes_named_iff)
      (fun _ _ => Field.describes_of_build) h
  obtain ⟨kinds, -, rfl⟩ := exists_ofKinds_eq h
  exact ⟨rfl, rfl, hfields, rfl, rfl⟩

/-! ## Where building stops -/

/-- The failure for a column repeats the names of the table and the column. -/
theorem Table.kindOf_eq_error_iff {t : Table} {c : Column} {err : BuildError} :
    t.kindOf m c = .error err ↔
      ∃ refusal, m.kindOf c.rawType = .error refusal ∧ err = ⟨t.name, c.name, refusal.raw⟩ := by
  rw [Table.kindOf]
  cases m.kindOf c.rawType with
  | ok kind => exact iff_of_false (by simp [Except.mapError]) (by simp)
  | error refusal => simp [Except.mapError, eq_comm]

/-- A column gets a kind exactly if it is mapped. -/
theorem Table.exists_kindOf_eq_ok_iff {t : Table} {c : Column} :
    (∃ kind, t.kindOf m c = .ok kind) ↔ c.IsMapped m := by
  simp only [Table.kindOf, mapError_eq_ok_iff, Column.IsMapped]

/-- The columns of a table have their kinds if all of them are mapped. -/
theorem Table.exists_kinds_eq_ok_iff {t : Table} :
    (∃ kinds, t.kinds m = .ok kinds) ↔ t.IsMapped m := by
  refine ⟨fun ⟨kinds, hkinds⟩ c hc => ?_, exists_kinds_eq⟩
  exact exists_kindOf_eq_ok_iff.mp (exists_eq_ok_of_mapM_eq_ok hkinds hc)

/-- The kinds of the columns of all tables are found if all columns are mapped. -/
theorem Database.exists_kinds_eq_ok_iff {d : Database} :
    (∃ kinds, d.kinds m = .ok kinds) ↔ ∀ t ∈ d.tables, t.IsMapped m := by
  refine ⟨fun ⟨kinds, hkinds⟩ t ht => ?_, fun h => exists_mapM_eq_ok fun t ht => ?_⟩
  · exact Table.exists_kinds_eq_ok_iff.mp (exists_eq_ok_of_mapM_eq_ok hkinds ht)
  · exact Table.exists_kinds_eq_ok_iff.mpr (h t ht)

/-- **The kinds of a table are looked for until the first column without one.** -/
theorem Table.kinds_eq_error_iff {t : Table} {err : BuildError} :
    t.kinds m = .error err ↔ ∃ c, t.FirstUnmapped m c ∧ t.kindOf m c = .error err := by
  rw [Table.kinds, mapM_eq_error_iff]
  simp only [exists_kindOf_eq_ok_iff]
  constructor
  · rintro ⟨before, c, after, hcolumns, hbefore, herr⟩
    refine ⟨c, ⟨before, after, hcolumns, hbefore, ?_⟩, herr⟩
    rw [← exists_kindOf_eq_ok_iff (t := t), herr]
    rintro ⟨kind, h⟩
    contradiction
  · rintro ⟨c, ⟨before, after, hcolumns, hbefore, -⟩, herr⟩
    exact ⟨before, c, after, hcolumns, hbefore, herr⟩

/-- **The kinds of a database are looked for until the first column without one**, table by table. -/
theorem Database.kinds_eq_error_iff {d : Database} {err : BuildError} :
    d.kinds m = .error err ↔ ∃ t c, d.FirstUnmapped m t c ∧ t.kindOf m c = .error err := by
  rw [Database.kinds, mapM_eq_error_iff]
  simp only [Table.exists_kinds_eq_ok_iff, Table.kinds_eq_error_iff]
  constructor
  · rintro ⟨front, t, back, htables, hfront, c, hfirst, herr⟩
    exact ⟨t, c, ⟨front, back, htables, hfront, hfirst⟩, herr⟩
  · rintro ⟨t, c, ⟨front, back, htables, hfront, hfirst⟩, herr⟩
    exact ⟨front, t, back, htables, hfront, c, hfirst, herr⟩

/-! ## The schema of a database -/

/-- A schema is built if the kinds of all columns are found. -/
theorem Schema.exists_build_eq_ok_iff {d : Database} :
    (∃ s, Schema.build m o d = .ok s) ↔ ∀ t ∈ d.tables, t.IsMapped m := by
  rw [← Database.exists_kinds_eq_ok_iff, Schema.build_eq]
  cases d.kinds m with
  | ok kinds => exact iff_of_true ⟨_, rfl⟩ ⟨kinds, rfl⟩
  | error err => exact iff_of_false (fun ⟨s, h⟩ => by contradiction) (fun ⟨ks, h⟩ => by contradiction)

/-- **The failure names the first column without a kind**, whatever the options are. -/
theorem Schema.build_eq_error_iff {d : Database} {err : BuildError} :
    Schema.build m o d = .error err ↔
      ∃ t c refusal, d.FirstUnmapped m t c ∧ m.kindOf c.rawType = .error refusal ∧
        err = ⟨t.name, c.name, refusal.raw⟩ := by
  rw [Schema.build_eq, map_eq_error_iff, Database.kinds_eq_error_iff]
  simp only [Table.kindOf_eq_error_iff, exists_and_left]

/-- A schema is built from one entity for each table, in order. -/
theorem Schema.forall₂_of_build {d : Database} {s : Schema} (h : Schema.build m o d = .ok s) :
    s.name = d.name ∧ List.Forall₂ (Entity.Describes m o) d.tables s.entities := by
  rw [Schema.build] at h
  obtain ⟨entities, hentities, h⟩ := bind_eq_ok_iff.mp h
  obtain rfl := Except.ok.inj h
  exact ⟨rfl, forall₂_of_mapM_eq_ok (fun t e => Entity.describes_of_build) hentities⟩

/-- **What becomes of a database.** A schema is built exactly if the mapper has a kind for every column
of every table. It has one entity for each table, in order, that tells what the table says. Otherwise the
failure names the first column without a kind, in the order of the tables and of the columns in them,
whatever the options are, and shows the raw type that the refusal of the mapper names.

A mapper is expected to name the raw type as it was given (`Dialect.Mapper.Repeats`). All mappers of rule
tables do (`Dialect.Mapper.repeats_resolve`), the built-in ones among them, so with these the failure shows
the raw type as the column has it. -/
theorem Schema.build_outcome (m : Dialect.Mapper) (o : Options) (d : Database) :
    ((∃ s, Schema.build m o d = .ok s) ↔ ∀ t ∈ d.tables, t.IsMapped m) ∧
    (∀ s, Schema.build m o d = .ok s →
      s.name = d.name ∧ List.Forall₂ (Entity.Describes m o) d.tables s.entities) ∧
    (∀ err, Schema.build m o d = .error err ↔
      ∃ t c refusal, d.FirstUnmapped m t c ∧ m.kindOf c.rawType = .error refusal ∧
        err = ⟨t.name, c.name, refusal.raw⟩) ∧
    (m.Repeats → ∀ err, Schema.build m o d = .error err ↔
      ∃ t c, d.FirstUnmapped m t c ∧ err = ⟨t.name, c.name, c.rawType⟩) := by
  refine ⟨exists_build_eq_ok_iff, fun s => forall₂_of_build, fun err => build_eq_error_iff,
    fun hrepeats err => ?_⟩
  rw [build_eq_error_iff]
  constructor
  · rintro ⟨t, c, refusal, hfirst, hkind, rfl⟩
    exact ⟨t, c, hfirst, by rw [hrepeats _ _ hkind]⟩
  · rintro ⟨t, c, hfirst, rfl⟩
    obtain ⟨refusal, hkind⟩ := Database.exists_refusal hfirst
    exact ⟨t, c, refusal, hfirst, hkind, by rw [hrepeats _ _ hkind]⟩

/-- Behind a table that has its entity, a column of an unknown type comes before another one: the failure
shows the blanks around the type and its capitals. -/
theorem Schema.build_outcome_interval :
    let column (name rawType : String) : Column :=
      { (default : Column) with name := name, rawType := rawType }
    let user : Table := { (default : Table) with name := "user", columns := [column "id" "BIGINT"] }
    let c := column "span" " Interval "
    let event : Table :=
      { (default : Table) with
        name := "event", columns := [column "id" "int", c, column "at" "moment"] }
    let d : Database := ⟨"app", [user, event, { event with name := "log" }]⟩
    (∃ s, Schema.build Dialect.mysql .standard ⟨"app", [user]⟩ = .ok s ∧
        List.Forall₂ (Entity.Describes Dialect.mysql .standard) [user] s.entities) ∧
      Schema.build Dialect.mysql .standard d = .error ⟨"event", "span", " Interval "⟩ := by
  intro column user c event d
  obtain ⟨hexists, hdescribes, -, -⟩ := build_outcome Dialect.mysql .standard ⟨"app", [user]⟩
  obtain ⟨-, -, -, herror⟩ := build_outcome Dialect.mysql .standard d
  have hmysql : Dialect.mysql.Repeats := Dialect.Mapper.repeats_resolve "mysql" Dialect.mysqlRules
  refine ⟨?_, (herror hmysql _).mpr ⟨event, c, ?_, rfl⟩⟩
  · obtain ⟨s, hs⟩ := hexists.mpr (by decide +kernel)
    exact ⟨s, hs, (hdescribes s hs).2⟩
  · refine ⟨[user], _, rfl, by decide +kernel, [column "id" "int"], _, rfl, ?_, ?_⟩
    · decide +kernel
    · decide +kernel

end Tablewright
