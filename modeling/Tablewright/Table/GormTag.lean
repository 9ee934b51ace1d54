import Tablewright.Table.Ddl
import Tablewright.Text.Line

/-! # gorm tags

The struct tag that tells gorm how a column is stored: segments between semicolons that name the
column, its type, its default, the indexes it belongs to and its comment. The segments are written
as they are; only the comment is made safe. -/

namespace Tablewright.GormTag

/-- A comment as it may stand in a tag: on one line, without a semicolon or a backtick, its double
quotes escaped. -/
def commentText (comment : String) : String :=
  Text.onChars (fun s => Text.flattenBreaks ((Text.trim s).flatMap fun c =>
    if c = ';' then [','] else if c = '\x60' then ['\''] else if c = '"' then ['\\', '"']
    else [c])) comment

/-- The place of a column in an index of several columns. -/
def priority (i : Index) (position : Nat) : String :=
  if i.columns.length > 1 then ",priority:" ++ toString position else ""

/-- The segments that make a column part of the primary key. -/
def primarySegments (c : Column) (key : Index) (position : Nat) : List String :=
  (if c.autoIncrement then ["autoIncrement:true"] else []) ++
    ["primaryKey" ++ priority key position]

/-- The segment of the default of a column outside the primary key. -/
def defaultSegments (c : Column) : List String :=
  match c.default? with
  | some (.literal v) =>
    let v := ColumnDefault.unquoted v
    -- an empty default has to be visible
    ["default:" ++ if v = "" then "''" else v]
  | some (.expr e) => ["default:" ++ e]
  | none => if c.nullable then ["default:null"] else []

/-- The segment of an index that holds a column. -/
def indexSegment? (column : String) (i : Index) : Option String :=
  (i.position? column).map fun position =>
    (if i.isUnique then "uniqueIndex:" else "index:") ++ i.name ++ priority i position

/-- The primary key of a table and the place of a column in it, if it has one. -/
def keyPosition? (t : Table) (c : Column) : Option (Index × Nat) :=
  t.primaryKey?.bind fun key => (key.position? c.name).map fun position => (key, position)

/-- The segments of a tag, in order. -/
def segments (t : Table) (c : Column) (withComment : Bool) : List String :=
  let place := keyPosition? t c
  ["column:" ++ c.name] ++
    -- gorm chooses the type of a numbered key itself
    (if place.isSome && c.autoIncrement then [] else ["type:" ++ c.rawType]) ++
    (if c.nullable then [] else ["not null"]) ++
    (match place with
      | some (key, position) => primarySegments c key position
      | none => defaultSegments c) ++
    t.secondaryIndexes.filterMap (indexSegment? c.name) ++
    (if withComment && c.comment != "" then ["comment:" ++ commentText c.comment] else [])

/-- The tag of a column. -/
def tag (t : Table) (c : Column) (withComment : Bool) : String :=
  "gorm:\"" ++ String.intercalate ";" (segments t c withComment) ++ "\""

end Tablewright.GormTag
