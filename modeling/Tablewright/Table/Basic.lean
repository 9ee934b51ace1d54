import Tablewright.Text.Blank

/-! # Tables

The facts about a database that generation starts from: its tables with their columns, indexes and
foreign keys, as an introspection reports them. Raw types and expressions are kept as they are
spelled. -/

namespace Tablewright

/-- The default value of a column. -/
inductive ColumnDefault where
  /-- A constant, without its quotes. -/
  | literal (value : String)
  /-- An expression that the database evaluates. -/
  | expr (value : String)
  deriving DecidableEq, Inhabited

/-- A column of a table. -/
structure Column where
  name : String
  rawType : String
  nullable : Bool
  default? : Option ColumnDefault
  autoIncrement : Bool
  comment : String
  deriving DecidableEq, Inhabited

/-- An index of a table. -/
structure Index where
  name : String
  columns : List String
  unique : Bool
  primary : Bool
  algorithm? : Option String
  deriving DecidableEq, Inhabited

/-- What happens to a row when the row it refers to changes. -/
inductive ReferenceAction where
  | noAction
  | restrict
  | cascade
  | setNull
  | setDefault
  deriving DecidableEq

instance : Inhabited ReferenceAction := ⟨.restrict⟩

/-- The SQL spelling of an action. -/
def ReferenceAction.sql : ReferenceAction → String
  | noAction => "NO ACTION"
  | restrict => "RESTRICT"
  | cascade => "CASCADE"
  | setNull => "SET NULL"
  | setDefault => "SET DEFAULT"

/-- All actions. -/
def ReferenceAction.all : List ReferenceAction :=
  [noAction, restrict, cascade, setNull, setDefault]

/-- A foreign key of a table. -/
structure ForeignKey where
  symbol : String
  columns : List String
  refTable : String
  refColumns : List String
  onUpdate : ReferenceAction
  onDelete : ReferenceAction
  deriving DecidableEq, Inhabited

/-- A table. -/
structure Table where
  name : String
  comment : String
  engine? : Option String
  charset? : Option String
  collation? : Option String
  columns : List Column
  indexes : List Index
  foreignKeys : List ForeignKey
  deriving DecidableEq, Inhabited

/-- A database: its name and its tables. -/
structure Database where
  name : String
  tables : List Table
  deriving DecidableEq, Inhabited

/-! ## Keys of a table -/

namespace Index

/-- Two texts that differ at most in the case of ASCII letters. -/
def sameLetters (a b : String) : Bool :=
  a.toList.map Char.toLower == b.toList.map Char.toLower

/-- An index is primary if it is said to be or has the name of a primary index. -/
def isPrimary (i : Index) : Bool :=
  i.primary || sameLetters i.name "PRIMARY"

/-- A primary index is unique too. -/
def isUnique (i : Index) : Bool :=
  i.unique || i.isPrimary

/-- The place of a column in an index, counted from 1. -/
def position? (i : Index) (column : String) : Option Nat :=
  (i.columns.findIdx? (· == column)).map (· + 1)

end Index

namespace Table

/-- The first primary index. -/
def primaryKey? (t : Table) : Option Index :=
  t.indexes.find? Index.isPrimary

/-- The indexes that are not primary. -/
def secondaryIndexes (t : Table) : List Index :=
  t.indexes.filter fun i => !i.isPrimary

end Table

end Tablewright
