import Tablewright.Dialect.Builtin
import Tablewright.Entity.FieldNames
import Tablewright.Entity.Tags
import Tablewright.Table.GormTag

/-! # Building entities

The entity of a table has one field per column: its kind comes from the dialect, its type from the
kind or from a replacement, and then the options are applied. A single column of an unknown type
makes the table fail, and a single table makes the schema fail. -/

namespace Tablewright

/-- A column has a type that the dialect does not know. -/
structure BuildError where
  table : String
  column : String
  raw : String
  deriving DecidableEq, Inhabited

/-- The wording of the failure. -/
def BuildError.message (e : BuildError) : String :=
  "table `" ++ e.table ++ "` column `" ++ e.column ++ "`: unsupported column type `" ++ e.raw ++ "`"

/-- The Go type of a column before the options are applied. -/
def Options.baseType (o : Options) (table column : String) (kind : ColumnKind) : GoType :=
  match o.typeOverride? table column with
  | some replacement => replacement.toGoType kind
  | none => .ofKind kind

/-- The field of a column before the options are applied. -/
def Field.ofColumn (o : Options) (t : Table) (c : Column) (kind : ColumnKind) : Field where
  name := c.name
  comment := c.comment
  nullable := c.nullable
  column? := some c
  goType := o.baseType t.name c.name kind
  goName := Naming.camelCase c.name
  goPointer := c.nullable
  tags := [GormTag.tag t c (!o.disableCommentTag)]
  rapierKind := kind.toRapier

/-- The field of a column. -/
def Field.build (m : Dialect.Mapper) (o : Options) (t : Table) (c : Column) :
    Except BuildError Field :=
  match m.kindOf c.rawType with
  | .ok kind => .ok ((Field.ofColumn o t c kind).transform o)
  | .error e => .error ⟨t.name, c.name, e.raw⟩

/-- The entity of a table, given its fields. -/
def Entity.ofFields (o : Options) (t : Table) (fields : List Field) : Entity where
  name := t.name
  comment := t.comment
  table := t
  fields := fields
  indexes := t.indexes.map EntityIndex.ofIndex
  foreignKeys := if o.enableForeignKey then t.foreignKeys.map (.ofKey t.name) else []

/-- The entity of a table. -/
def Entity.build (m : Dialect.Mapper) (o : Options) (t : Table) : Except BuildError Entity := do
  let fields ← t.columns.mapM (Field.build m o t)
  -- names are resolved once all fields are there
  return (Entity.ofFields o t fields).resolveNames o.escapeName

/-- The schema of a database. -/
def Schema.build (m : Dialect.Mapper) (o : Options) (d : Database) : Except BuildError Schema := do
  let entities ← d.tables.mapM (Entity.build m o)
  return { name := d.name, entities := entities }

end Tablewright
