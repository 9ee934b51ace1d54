import Tablewright.Entity.Build
import Tablewright.Proofs.Entity.FieldNames
import Tablewright.Proofs.Entity.Transform
import Tablewright.Proofs.Lists

/-! # What building gives

Only the dialect can make building fail, and it sees nothing but the raw types. So building comes in
two parts: finding the kinds of all columns, which may fail (`Table.kinds`, `Database.kinds`), and
putting the entities together from these, which depends on the options (`Entity.ofKinds`,
`Schema.ofKinds`).

* `Entity.build_eq`, `Schema.build_eq`: building is the one part behind the other.
* `Table.exists_kinds_eq`: there are kinds if the dialect knows every raw type.
* `Entity.kinds_ofKinds`: the fields of an entity stand for the kinds of their columns. -/

namespace Tablewright

/-! ## The kinds of the columns -/

/-- The kind of a column of a table. -/
def Table.kindOf (m : Dialect.Mapper) (t : Table) (c : Column) : Except BuildError ColumnKind :=
  (m.kindOf c.rawType).mapError fun e => ⟨t.name, c.name, e.raw⟩

/-- The kinds of the columns of a table. -/
def Table.kinds (m : Dialect.Mapper) (t : Table) : Except BuildError (List ColumnKind) :=
  t.columns.mapM (t.kindOf m)

/-- The kinds of the columns of all tables. -/
def Database.kinds (m : Dialect.Mapper) (d : Database) :
    Except BuildError (List (List ColumnKind)) :=
  d.tables.mapM (Table.kinds m)

/-- There is one kind for each column. -/
theorem Table.length_kinds {m : Dialect.Mapper} {t : Table} {kinds : List ColumnKind}
    (h : t.kinds m = .ok kinds) : kinds.length = t.columns.length :=
  length_of_mapM_eq_ok h

/-- **The columns have kinds** if the dialect knows all of their raw types. -/
theorem Table.exists_kinds_eq {m : Dialect.Mapper} {t : Table}
    (h : ∀ c ∈ t.columns, ∃ kind, m.kindOf c.rawType = .ok kind) :
    ∃ kinds, t.kinds m = .ok kinds := by
  refine exists_mapM_eq_ok fun c hc => ?_
  obtain ⟨kind, hkind⟩ := h c hc
  refine ⟨kind, ?_⟩
  rw [Table.kindOf, hkind]
  rfl

/-- The type of a kind stands for that kind. -/
@[simp] theorem GoType.kind_ofKind (kind : ColumnKind) : (GoType.ofKind kind).kind = kind := by
  cases kind <;> rfl

/-- A replacement of the type keeps the kind too. -/
@[simp] theorem Options.kind_baseType (o : Options) (table column : String) (kind : ColumnKind) :
    (o.baseType table column kind).kind = kind := by
  rw [Options.baseType]
  cases o.typeOverride? table column with
  | none => exact GoType.kind_ofKind kind
  | some replacement => rfl

/-- A field made of a column has the kind it is given. -/
@[simp] theorem Field.kind_ofColumn (o : Options) (t : Table) (c : Column) (kind : ColumnKind) :
    (Field.ofColumn o t c kind).kind = kind :=
  Options.kind_baseType o t.name c.name kind

/-- The kinds of the columns are those that the dialect gives to their raw types. -/
theorem Table.kinds_eq_ok_iff {m : Dialect.Mapper} {t : Table} {kinds : List ColumnKind} :
    t.kinds m = .ok kinds ↔ t.columns.map (fun c => m.kindOf c.rawType) = kinds.map .ok := by
  rw [Table.kinds, mapM_eq_ok_iff]
  exact map_eq_map_ok_congr fun c kind => mapError_eq_ok_iff

/-! ## The entity of a table -/

/-- The field of a column of this kind. -/
def Field.ofKind (o : Options) (t : Table) (c : Column) (kind : ColumnKind) : Field :=
  (Field.ofColumn o t c kind).transform o

/-- A built field has the kind it is given. -/
@[simp] theorem Field.kind_ofKind (o : Options) (t : Table) (c : Column) (kind : ColumnKind) :
    (Field.ofKind o t c kind).kind = kind := by
  rw [ofKind, kind_transform, kind_ofColumn]

/-- A built field comes from its column. -/
@[simp] theorem Field.column?_ofKind (o : Options) (t : Table) (c : Column) (kind : ColumnKind) :
    (Field.ofKind o t c kind).column? = some c :=
  Field.column?_transform o _

/-- The entity of a table whose columns have these kinds. -/
def Entity.ofKinds (o : Options) (t : Table) (kinds : List ColumnKind) : Entity :=
  (Entity.ofFields o t (List.zipWith (Field.ofKind o t) t.columns kinds)).resolveNames o.escapeName

/-- Building a field is finding the kind of its column and going on from there. -/
theorem Field.build_eq (m : Dialect.Mapper) (o : Options) (t : Table) (c : Column) :
    Field.build m o t c = (t.kindOf m c).map (Field.ofKind o t c) := by
  rw [Field.build, Table.kindOf]
  cases m.kindOf c.rawType with
  | ok kind => rfl
  | error e => rfl

/-- **Building an entity is finding the kinds of its columns and going on from there.** -/
theorem Entity.build_eq (m : Dialect.Mapper) (o : Options) (t : Table) :
    Entity.build m o t = (t.kinds m).map (Entity.ofKinds o t) := by
  have hfields : Field.build m o t = fun c => (t.kindOf m c).map (Field.ofKind o t c) := by
    funext c
    exact Field.build_eq m o t c
  rw [Entity.build, hfields, mapM_map_eq, Table.kinds]
  cases t.columns.mapM (t.kindOf m) with
  | ok kinds => rfl
  | error e => rfl

/-- What the fields of columns have from their columns, whatever the kinds are, all of them have. -/
theorem Field.map_zipWith_ofKind {α : Type} {o : Options} {t : Table} {kinds : List ColumnKind}
    {f : Field → α} {g : Column → α} (hfg : ∀ c kind, f (Field.ofKind o t c kind) = g c)
    (h : kinds.length = t.columns.length) :
    (List.zipWith (Field.ofKind o t) t.columns kinds).map f = t.columns.map g := by
  rw [List.map_zipWith]
  refine List.ext_getElem ?_ fun i h₁ h₂ => ?_
  · simp [h]
  · simp [hfg]

/-- The fields of an entity have the columns of its table behind them, in order. -/
theorem Entity.columns_ofKinds {o : Options} {t : Table} {kinds : List ColumnKind}
    (h : kinds.length = t.columns.length) :
    (Entity.ofKinds o t kinds).fields.map Field.column? = t.columns.map some := by
  rw [Entity.ofKinds, Entity.map_resolveNames (fun x name => rfl)]
  exact Field.map_zipWith_ofKind (fun c kind => Field.column?_ofKind o t c kind) h

/-- The fields of an entity have the names of the columns of its table, in order. -/
theorem Entity.names_ofKinds {o : Options} {t : Table} {kinds : List ColumnKind}
    (h : kinds.length = t.columns.length) :
    (Entity.ofKinds o t kinds).fields.map Field.name = t.columns.map Column.name := by
  rw [Entity.ofKinds, Entity.map_resolveNames (fun x name => rfl)]
  exact Field.map_zipWith_ofKind (fun c kind => Field.name_transform o _) h

/-- The struct fields come with the exported forms of the names of the columns. -/
theorem Entity.goNames_ofFields {o : Options} {t : Table} {kinds : List ColumnKind}
    (h : kinds.length = t.columns.length) :
    (Entity.ofFields o t (List.zipWith (Field.ofKind o t) t.columns kinds)).goNames =
      t.columns.map fun c => Naming.camelCase c.name :=
  Field.map_zipWith_ofKind (fun _ _ => Field.goName_transform o _) h

/-- The fields of an entity have the kinds of the columns of its table, in order. -/
theorem Entity.kinds_ofKinds {o : Options} {t : Table} {kinds : List ColumnKind}
    (h : kinds.length = t.columns.length) :
    (Entity.ofKinds o t kinds).fields.map Field.kind = kinds := by
  rw [Entity.ofKinds, Entity.map_resolveNames (fun x name => rfl), Entity.ofFields,
    List.map_zipWith]
  refine List.ext_getElem ?_ fun i h₁ h₂ => ?_
  · simp [h]
  · simp

/-- What is built for a table is an entity of kinds for all of its columns. -/
theorem Entity.exists_ofKinds_eq {m : Dialect.Mapper} {o : Options} {t : Table} {e : Entity}
    (h : Entity.build m o t = .ok e) :
    ∃ kinds, kinds.length = t.columns.length ∧ Entity.ofKinds o t kinds = e := by
  rw [Entity.build_eq] at h
  cases hkinds : t.kinds m with
  | error err =>
      rw [hkinds] at h
      contradiction
  | ok kinds =>
      rw [hkinds] at h
      exact ⟨kinds, Table.length_kinds hkinds, Except.ok.inj h⟩

/-- **What holds between columns and the fields built for them**, whatever the names of the struct fields
are, holds between the columns of a table and the fields of its entity, in order. -/
theorem Entity.forall₂_fields_of_build {m : Dialect.Mapper} {o : Options} {t : Table} {e : Entity}
    {R : Column → Field → Prop} (hR : ∀ c f name, R c (f.named name) ↔ R c f)
    (hbuilt : ∀ c f, Field.build m o t c = .ok f → R c f) (h : Entity.build m o t = .ok e) :
    List.Forall₂ R t.columns e.fields := by
  rw [Entity.build] at h
  obtain ⟨fields, hfields, h⟩ := bind_eq_ok_iff.mp h
  obtain rfl := Except.ok.inj h
  -- the search for names cannot be seen when all fields have the same name
  have hunnamed (fields : List Field) :
      List.Forall₂ R t.columns fields ↔ List.Forall₂ R t.columns (fields.map (·.named "")) := by
    rw [List.forall₂_map_right_iff]
    simp only [hR]
  rw [hunnamed, map_named_resolveNames, ← hunnamed]
  exact forall₂_of_mapM_eq_ok hbuilt hfields

/-- **The fields of a built entity are those of the columns of its table**, in order, each under a name of
its own. -/
theorem Entity.forall₂_ofKind_of_build {m : Dialect.Mapper} {o : Options} {t : Table} {e : Entity}
    (h : Entity.build m o t = .ok e) :
    List.Forall₂ (fun c f => ∃ kind goName, f = (Field.ofKind o t c kind).named goName) t.columns
      e.fields := by
  refine forall₂_fields_of_build (fun c f name => ?_) (fun c f hf => ?_) h
  · constructor
    · rintro ⟨kind, goName, hnamed⟩
      exact ⟨kind, f.goName, congrArg (·.named f.goName) hnamed⟩
    · rintro ⟨kind, goName, rfl⟩
      exact ⟨kind, name, rfl⟩
  · rw [Field.build_eq] at hf
    cases hkind : t.kindOf m c with
    | error err =>
        rw [hkind] at hf
        contradiction
    | ok kind =>
        rw [hkind] at hf
        obtain rfl := Except.ok.inj hf
        exact ⟨kind, _, rfl⟩

/-- A built entity has the name of its table. -/
theorem Entity.name_of_build {m : Dialect.Mapper} {o : Options} {t : Table} {e : Entity}
    (h : Entity.build m o t = .ok e) : e.name = t.name := by
  obtain ⟨kinds, -, rfl⟩ := exists_ofKinds_eq h
  rfl

/-! ## The schema of a database -/

/-- The schema of a database whose columns have these kinds. -/
def Schema.ofKinds (o : Options) (d : Database) (kinds : List (List ColumnKind)) : Schema where
  name := d.name
  entities := List.zipWith (Entity.ofKinds o) d.tables kinds

/-- **Building a schema is finding the kinds of all columns and going on from there.** -/
theorem Schema.build_eq (m : Dialect.Mapper) (o : Options) (d : Database) :
    Schema.build m o d = (d.kinds m).map (Schema.ofKinds o d) := by
  have hentities : Entity.build m o = fun t => (t.kinds m).map (Entity.ofKinds o t) := by
    funext t
    exact Entity.build_eq m o t
  rw [Schema.build, hentities, mapM_map_eq, Database.kinds]
  cases d.tables.mapM (Table.kinds m) with
  | ok kinds => rfl
  | error e => rfl

end Tablewright
