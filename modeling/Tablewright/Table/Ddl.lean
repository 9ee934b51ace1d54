import Tablewright.Table.Basic
import Tablewright.Text.Quoted

/-! # Table definitions in SQL

The `CREATE TABLE` statement of a table, line by line: its columns, its primary indexes, its other
indexes and its foreign keys. Comments and constant defaults stand between single quotes, with
backslash escapes. -/

namespace Tablewright

/-- A text as a quoted SQL literal. -/
def sqlLiteral (s : String) : String :=
  "'" ++ Text.onChars (Text.escape '\'') s ++ "'"

/-- A name between backticks. -/
def sqlName (name : String) : String :=
  "`" ++ name ++ "`"

/-- Names between backticks, separated by commas. -/
def sqlNames (names : List String) : String :=
  String.intercalate "," (names.map sqlName)

/-- A constant default without the double quotes around it. -/
def ColumnDefault.unquoted (value : String) : String :=
  Text.onChars (Text.trimOf (· == '"')) value

namespace Column

/-- How a new row gets its value for the column. -/
def defaultClause (c : Column) : String :=
  -- a numbered column has no default
  if c.autoIncrement then " AUTO_INCREMENT"
  else match c.default? with
    | some (.literal v) => " DEFAULT " ++ sqlLiteral (ColumnDefault.unquoted v)
    | some (.expr e) => " DEFAULT " ++ e
    | none => if c.nullable then " DEFAULT NULL" else ""

/-- The definition of a column without its name. -/
def definition (c : Column) : String :=
  c.rawType ++ (if c.nullable then "" else " NOT NULL") ++ c.defaultClause

/-- The line of a column. -/
def sql (c : Column) : String :=
  sqlName c.name ++ " " ++ c.definition ++
    (if c.comment = "" then "" else " COMMENT " ++ sqlLiteral c.comment)

end Column

namespace Index

/-- The algorithm of an index. -/
def algorithm (i : Index) : String :=
  i.algorithm?.getD "BTREE"

/-- The line of an index. -/
def definition (i : Index) : String :=
  (if i.isPrimary then "PRIMARY KEY"
    else if i.isUnique then "UNIQUE KEY " ++ sqlName i.name
    else "KEY " ++ sqlName i.name) ++
  " (" ++ sqlNames i.columns ++ ") USING " ++ i.algorithm

end Index

/-- The line of a foreign key. -/
def ForeignKey.definition (k : ForeignKey) : String :=
  "CONSTRAINT " ++ sqlName k.symbol ++ " FOREIGN KEY (" ++ sqlNames k.columns ++
    ") REFERENCES " ++ sqlName k.refTable ++ " (" ++ sqlNames k.refColumns ++
    ") ON DELETE " ++ k.onDelete.sql ++ " ON UPDATE " ++ k.onUpdate.sql

namespace Table

/-- What stands behind the closing parenthesis of a definition. -/
def options (t : Table) : String :=
  " ENGINE=" ++ t.engine?.getD "InnoDB" ++ " DEFAULT CHARSET=" ++ t.charset?.getD "utf8mb4" ++
    (match t.collation? with
      | some c => " COLLATE=" ++ c
      | none => "") ++
    (if t.comment = "" then "" else " COMMENT=" ++ sqlLiteral t.comment)

/-- The lines of a definition: columns, primary indexes, other indexes, foreign keys. -/
def definitionLines (columns : List Column) (indexes : List Index) (keys : List ForeignKey) :
    List String :=
  columns.map Column.sql ++ (indexes.filter Index.isPrimary).map Index.definition ++
    (indexes.filter fun i => !i.isPrimary).map Index.definition ++ keys.map ForeignKey.definition

/-- The statement that creates a table with some columns, indexes and foreign keys. -/
def createStatement (t : Table) (columns : List Column) (indexes : List Index)
    (keys : List ForeignKey) : String :=
  "CREATE TABLE " ++ sqlName t.name ++ " (\n" ++
    String.intercalate ",\n" ((definitionLines columns indexes keys).map fun l => "  " ++ l) ++
    "\n)" ++ t.options ++ ";"

/-- The statement that creates a table with all that it has. -/
def definition (t : Table) : String :=
  t.createStatement t.columns t.indexes t.foreignKeys

end Table

end Tablewright
