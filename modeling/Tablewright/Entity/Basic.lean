import Tablewright.Column.GoType
import Tablewright.Naming.Style
import Tablewright.Table.Ddl

/-! # Entities

An entity is a table as the generated code sees it: the table itself and, for each column, a field
with its Go type, its name, its tags and its accessor type. Beside the fields it lists the indexes
and the foreign keys that are kept, each with the definition behind it. A schema is a list of
entities. -/

namespace Tablewright

/-- A field of an entity. -/
structure Field where
  /-- The name of the column. -/
  name : String
  comment : String
  nullable : Bool
  /-- The column behind the field, if there is one. -/
  column? : Option Column
  goType : GoType
  /-- The name of the struct field. -/
  goName : String
  /-- Is the struct field a pointer? -/
  goPointer : Bool
  tags : List String
  rapierKind : RapierKind
  deriving DecidableEq, Inhabited

namespace Field

/-- The kind of the column. -/
def kind (f : Field) : ColumnKind :=
  f.goType.kind

/-- The Go type as it stands in a struct, its pointer included. -/
def goTypeIdent (f : Field) : String :=
  if f.goPointer && !f.goType.nilable then "*" ++ f.goType.ident else f.goType.ident

/-- A field without a column behind it. -/
def bare (name comment : String) (kind : ColumnKind) (nullable : Bool) : Field where
  name := name
  comment := comment
  nullable := nullable
  column? := none
  goType := .ofKind kind
  goName := Naming.camelCase name
  goPointer := nullable
  tags := []
  rapierKind := kind.toRapier

end Field

/-- An index of an entity. -/
structure EntityIndex where
  name : String
  /-- The columns that it is over. -/
  fields : List String
  /-- The index behind it, if there is one. -/
  index? : Option Index
  deriving DecidableEq, Inhabited

namespace EntityIndex

/-- The index of an entity that stands for an index of its table. -/
def ofIndex (i : Index) : EntityIndex where
  name := i.name
  fields := i.columns
  index? := some i

/-- Is the index behind it a primary one? -/
def isPrimary (i : EntityIndex) : Bool :=
  i.index?.any Index.isPrimary

/-- The line of the index behind it; empty without one. -/
def definition (i : EntityIndex) : String :=
  (i.index?.map Index.definition).getD ""

end EntityIndex

/-- A foreign key of an entity. -/
structure EntityForeignKey where
  symbol : String
  /-- The table that refers. -/
  table : String
  columns : List String
  refTable : String
  refColumns : List String
  onUpdate : ReferenceAction
  onDelete : ReferenceAction
  /-- The foreign key behind it, if there is one. -/
  key? : Option ForeignKey
  deriving DecidableEq, Inhabited

namespace EntityForeignKey

/-- The foreign key of an entity that stands for a foreign key of its table. -/
def ofKey (table : String) (k : ForeignKey) : EntityForeignKey where
  symbol := k.symbol
  table := table
  columns := k.columns
  refTable := k.refTable
  refColumns := k.refColumns
  onUpdate := k.onUpdate
  onDelete := k.onDelete
  key? := some k

/-- The line of the foreign key behind it; empty without one. -/
def definition (k : EntityForeignKey) : String :=
  (k.key?.map ForeignKey.definition).getD ""

end EntityForeignKey

/-- An entity. -/
structure Entity where
  /-- The name of the table. -/
  name : String
  comment : String
  table : Table
  fields : List Field
  indexes : List EntityIndex
  /-- The foreign keys that are kept. -/
  foreignKeys : List EntityForeignKey
  deriving DecidableEq, Inhabited

namespace Entity

/-- The name of the struct. -/
def structName (e : Entity) : String :=
  Naming.camelCase e.name

/-- The first primary index. -/
def primaryKey? (e : Entity) : Option EntityIndex :=
  e.indexes.find? EntityIndex.isPrimary

/-- The field of a column. -/
def field? (e : Entity) (column : String) : Option Field :=
  e.fields.find? fun f => f.name == column

end Entity

/-- A schema: its name and its entities. -/
structure Schema where
  name : String
  entities : List Entity
  deriving DecidableEq, Inhabited

/-- The schema with its entities in the order of their names; those of one name keep theirs. -/
def Schema.sorted (s : Schema) : Schema :=
  { s with entities := s.entities.mergeSort fun a b => decide (a.name ≤ b.name) }

end Tablewright
