import Tablewright.Json.Format
import Tablewright.Table.Basic

/-! # Documents of tables

How a database is written in JSON: the fields of every record in their declared order, which of them
may be left out, and the formats that decode and encode them. A foreign key restricts unless it says
otherwise. -/

namespace Tablewright

open Json (Format Shape Presence slot?)

/-- Lists of texts. -/
def textList : Format (List String) := .list .text

/-- The default value of a column: a text under `literal` or `expr`. -/
def ColumnDefault.format : Format ColumnDefault where
  shape := .tagged ["literal", "expr"]
  decode
    | .object ((k, j) :: _) _ =>
      if k.text? = some "literal" then .literal (Format.text.decode j)
      else .expr (Format.text.decode j)
    | _ => default
  encode
    | .literal v => Json.record [("literal", .ofText v)]
    | .expr v => Json.record [("expr", .ofText v)]

/-- The fields of a column. -/
def Column.fields : List (String × Presence × Shape) :=
  [("name", .required, .text),
   ("type", .required, .text),
   ("nullable", .defaulted, .flag),
   ("default", .nullable, ColumnDefault.format.shape),
   ("auto_increment", .defaulted, .flag),
   ("comment", .defaulted, .text)]

/-- Columns. -/
def Column.format : Format Column where
  shape := .record Column.fields
  decode j :=
    let slot := slot? Column.fields j
    { name := Format.text.at (slot "name") ""
      rawType := Format.text.at (slot "type") ""
      nullable := Format.flag.at (slot "nullable") false
      default? := ColumnDefault.format.optionalAt (slot "default")
      autoIncrement := Format.flag.at (slot "auto_increment") false
      comment := Format.text.at (slot "comment") "" }
  encode c := Json.record
    [("name", .ofText c.name),
     ("type", .ofText c.rawType),
     ("nullable", .bool c.nullable),
     ("default", ColumnDefault.format.encodeOptional c.default?),
     ("auto_increment", .bool c.autoIncrement),
     ("comment", .ofText c.comment)]

/-- The fields of an index. -/
def Index.fields : List (String × Presence × Shape) :=
  [("name", .required, .text),
   ("columns", .required, textList.shape),
   ("unique", .defaulted, .flag),
   ("primary", .defaulted, .flag),
   ("algorithm", .nullable, .text)]

/-- Indexes. -/
def Index.format : Format Index where
  shape := .record Index.fields
  decode j :=
    let slot := slot? Index.fields j
    { name := Format.text.at (slot "name") ""
      columns := textList.at (slot "columns") []
      unique := Format.flag.at (slot "unique") false
      primary := Format.flag.at (slot "primary") false
      algorithm? := Format.text.optionalAt (slot "algorithm") }
  encode i := Json.record
    [("name", .ofText i.name),
     ("columns", textList.encode i.columns),
     ("unique", .bool i.unique),
     ("primary", .bool i.primary),
     ("algorithm", Format.text.encodeOptional i.algorithm?)]

/-- What happens to referring rows, by its SQL spelling. -/
def ReferenceAction.format : Format ReferenceAction :=
  .word (ReferenceAction.all.map fun a => (a.sql, a)) ReferenceAction.sql

/-- The fields of a foreign key. -/
def ForeignKey.fields : List (String × Presence × Shape) :=
  [("symbol", .required, .text),
   ("columns", .required, textList.shape),
   ("ref_table", .required, .text),
   ("ref_columns", .required, textList.shape),
   ("on_update", .defaulted, ReferenceAction.format.shape),
   ("on_delete", .defaulted, ReferenceAction.format.shape)]

/-- Foreign keys. -/
def ForeignKey.format : Format ForeignKey where
  shape := .record ForeignKey.fields
  decode j :=
    let slot := slot? ForeignKey.fields j
    { symbol := Format.text.at (slot "symbol") ""
      columns := textList.at (slot "columns") []
      refTable := Format.text.at (slot "ref_table") ""
      refColumns := textList.at (slot "ref_columns") []
      onUpdate := ReferenceAction.format.at (slot "on_update") .restrict
      onDelete := ReferenceAction.format.at (slot "on_delete") .restrict }
  encode k := Json.record
    [("symbol", .ofText k.symbol),
     ("columns", textList.encode k.columns),
     ("ref_table", .ofText k.refTable),
     ("ref_columns", textList.encode k.refColumns),
     ("on_update", ReferenceAction.format.encode k.onUpdate),
     ("on_delete", ReferenceAction.format.encode k.onDelete)]

/-- The fields of a table. -/
def Table.fields : List (String × Presence × Shape) :=
  [("name", .required, .text),
   ("comment", .defaulted, .text),
   ("engine", .nullable, .text),
   ("charset", .nullable, .text),
   ("collation", .nullable, .text),
   ("columns", .defaulted, .list Column.format.shape),
   ("indexes", .defaulted, .list Index.format.shape),
   ("foreign_keys", .defaulted, .list ForeignKey.format.shape)]

/-- Tables. -/
def Table.format : Format Table where
  shape := .record Table.fields
  decode j :=
    let slot := slot? Table.fields j
    { name := Format.text.at (slot "name") ""
      comment := Format.text.at (slot "comment") ""
      engine? := Format.text.optionalAt (slot "engine")
      charset? := Format.text.optionalAt (slot "charset")
      collation? := Format.text.optionalAt (slot "collation")
      columns := (Format.list Column.format).at (slot "columns") []
      indexes := (Format.list Index.format).at (slot "indexes") []
      foreignKeys := (Format.list ForeignKey.format).at (slot "foreign_keys") [] }
  encode t := Json.record
    [("name", .ofText t.name),
     ("comment", .ofText t.comment),
     ("engine", Format.text.encodeOptional t.engine?),
     ("charset", Format.text.encodeOptional t.charset?),
     ("collation", Format.text.encodeOptional t.collation?),
     ("columns", (Format.list Column.format).encode t.columns),
     ("indexes", (Format.list Index.format).encode t.indexes),
     ("foreign_keys", (Format.list ForeignKey.format).encode t.foreignKeys)]

/-- The fields of a database. -/
def Database.fields : List (String × Presence × Shape) :=
  [("name", .defaulted, .text),
   ("tables", .defaulted, .list Table.format.shape)]

/-- Databases. -/
def Database.format : Format Database where
  shape := .record Database.fields
  decode j :=
    let slot := slot? Database.fields j
    { name := Format.text.at (slot "name") ""
      tables := (Format.list Table.format).at (slot "tables") [] }
  encode d := Json.record
    [("name", .ofText d.name),
     ("tables", (Format.list Table.format).encode d.tables)]

/-- The database that a text stands for. -/
def Database.ofText (text : String) : Except Json.Fault Database :=
  Database.format.read text

end Tablewright
