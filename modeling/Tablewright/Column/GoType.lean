import Tablewright.Column.Kind
import Tablewright.Text.Blank

/-! # Go types

What a model writes for a field: the type as it stands in Go source, the package it comes from, and
whether it can already express an absent value. A type that can (`nilable`) is never wrapped in a
pointer. -/

namespace Tablewright

/-- A Go type as a model writes it, with the column kind it stands for. -/
structure GoType where
  kind : ColumnKind
  /-- The type as written in Go source. -/
  ident : String
  /-- The import path of its package; empty for a builtin. -/
  pkgPath : String
  /-- The part of `ident` that names the package; empty for a builtin. -/
  qualifier : String
  /-- Can a value of the type be absent? -/
  nilable : Bool
  deriving DecidableEq, Inhabited

namespace GoType

/-- The package of the soft-delete marker. -/
def softDeletePackage : String := "gorm.io/plugin/soft_delete"

/-- The package of the nullable wrappers. -/
def sqlPackage : String := "database/sql"

/-- The text in front of the last dot; empty without a dot. -/
def beforeLastDot (s : List Char) : List Char :=
  ((s.reverse.dropWhile (· != '.')).drop 1).reverse

/-- The package qualifier in the spelling of a type, read behind its leading stars and brackets. -/
def qualifierOf (ident : String) : String :=
  Text.onChars (fun s => beforeLastDot (s.dropWhile fun c => c == '*' || c == '[' || c == ']')) ident

/-- Does the spelling name a slice, a pointer or a map? -/
def spelledNilable (ident : String) : Bool :=
  "[]".toList.isPrefixOf ident.toList || "*".toList.isPrefixOf ident.toList ||
    "map[".toList.isPrefixOf ident.toList

/-- The type with a spelling and a package. -/
def ofIdent (kind : ColumnKind) (ident pkgPath : String) : GoType where
  kind := kind
  ident := ident
  pkgPath := pkgPath
  qualifier := if pkgPath = "" then "" else qualifierOf ident
  nilable := spelledNilable ident

/-- The type that a column kind has unless something replaces it. -/
def ofKind (kind : ColumnKind) : GoType :=
  match kind with
  | .time => ofIdent kind "time.Time" "time"
  | .json => { ofIdent kind "json.RawMessage" "encoding/json" with nilable := true }
  | .other => ofIdent kind "any" ""
  | _ => ofIdent kind kind.name ""

/-- The marker type of an integer soft-delete column. -/
def softDelete (kind : ColumnKind) : GoType :=
  { ofIdent kind "soft_delete.DeletedAt" softDeletePackage with nilable := true }

/-- The spelling of the nullable wrapper of a kind, if it has one. -/
def sqlNullIdent? : ColumnKind → Option String
  | .bool => some "sql.NullBool"
  | .uint8 => some "sql.NullByte"
  | .int16 => some "sql.NullInt16"
  | .int32 => some "sql.NullInt32"
  | .int64 => some "sql.NullInt64"
  | .float64 => some "sql.NullFloat64"
  | .string => some "sql.NullString"
  | .time => some "sql.NullTime"
  | _ => none

/-- The nullable wrapper of a kind, if it has one. -/
def sqlNull? (kind : ColumnKind) : Option GoType :=
  (sqlNullIdent? kind).map fun ident => { ofIdent kind ident sqlPackage with nilable := true }

/-- Does the type come from the package of the soft-delete marker? -/
def isSoftDelete (t : GoType) : Bool :=
  t.pkgPath == softDeletePackage

end GoType

/-- A type that a user puts in the place of a column's own. -/
structure GoTypeOverride where
  ident : String
  pkgPath : String
  deriving DecidableEq, Inhabited

/-- The type that an override gives to a column of this kind. -/
def GoTypeOverride.toGoType (o : GoTypeOverride) (kind : ColumnKind) : GoType :=
  GoType.ofIdent kind o.ident o.pkgPath

end Tablewright
