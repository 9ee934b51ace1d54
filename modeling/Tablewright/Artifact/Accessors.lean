import Tablewright.Artifact.Header
import Tablewright.Entity.FieldNames
import Tablewright.Files.Path
import Tablewright.Naming.Identifier

/-! # Column accessors of the query layer

A Go file that gives every entity a type `<Struct>_Native` with one typed accessor per column, its
constructors, and the expressions that select its columns. The accessors keep clear of the other
members of that type. -/

namespace Tablewright.Artifact

/-- How accessors are written. -/
structure Accessors where
  package : String
  /-- The import path of the models; empty if they are in the same package. -/
  modelImportPath : String
  header : Header
  deriving DecidableEq, Inhabited

namespace Accessors

/-- The members and methods of the generated type that are no accessors. -/
def nativeMembers : List String :=
  ["xAlias", "ALL", "As", "X_Alias", "TableName", "New_Executor", "Select_Expr",
   "Select_VariantExpr"]

/-- The package that model types are written with. -/
def modelQualifier (a : Accessors) : String :=
  if a.modelImportPath = "" then "" else Path.packageName a.modelImportPath ++ "."

/-- The constant that holds the table name. -/
def tableConst (struct : String) : String := "xx_" ++ struct ++ "_TableName"

/-- The constant that holds the column name of a field. -/
def columnConst (struct goName : String) : String := "xx_" ++ struct ++ "_" ++ goName

/-- The declarations of the table name and the column names. -/
def constBlock (struct table : String) (fields : List Field) : List String :=
  ["const (",
   "\t// hold model `" ++ struct ++ "` table name",
   "\t" ++ tableConst struct ++ " = \"" ++ table ++ "\"",
   "\t// hold model `" ++ struct ++ "` column name"] ++
  fields.map (fun f => "\t" ++ columnConst struct f.goName ++ " = \"" ++ f.name ++ "\"") ++
  [")", ""]

/-- The declaration of the type. -/
def typeBlock (struct : String) (fields : List Field) : List String :=
  ["type " ++ struct ++ "_Native struct \x7b",
   "\txAlias string",
   "\tALL    rapier.Asterisk"] ++
  fields.map (fun f => "\t" ++ f.goName ++ " rapier." ++ f.rapierKind.name) ++
  ["\x7d", ""]

/-- The function that gives the shared value of the type. -/
def sharedBlock (struct table : String) : List String :=
  ["// X_" ++ struct ++ " model with TableName `" ++ table ++ "`.",
   "func X_" ++ struct ++ "() " ++ struct ++ "_Native \x7b",
   "\treturn xxx_" ++ struct ++ "_Model",
   "\x7d", ""]

/-- The function that builds a value of the type. -/
def builderBlock (struct : String) (fields : List Field) : List String :=
  ["func new_" ++ struct ++ "(xAlias string) " ++ struct ++ "_Native \x7b",
   "\treturn " ++ struct ++ "_Native\x7b",
   "\t\txAlias: xAlias,",
   "\t\tALL:    rapier.NewAsterisk(xAlias),"] ++
  fields.map (fun f => "\t\t" ++ f.goName ++ ": rapier.New" ++ f.rapierKind.name ++ "(xAlias, " ++
    columnConst struct f.goName ++ "),") ++
  ["\t\x7d", "\x7d", ""]

/-- The functions that are the same for every entity but for its names. -/
def methodBlocks (struct table model : String) : List String :=
  ["// New_" ++ struct ++ " new instance.",
   "func New_" ++ struct ++ "(xAlias string) " ++ struct ++ "_Native \x7b",
   "\tif xAlias == " ++ tableConst struct ++ " \x7b",
   "\t\treturn xxx_" ++ struct ++ "_Model",
   "\t\x7d else \x7b",
   "\t\treturn new_" ++ struct ++ "(xAlias)",
   "\t\x7d", "\x7d", "",
   "// As alias",
   "func (*" ++ struct ++ "_Native) As(alias string) " ++ struct ++ "_Native \x7b",
   "\treturn New_" ++ struct ++ "(alias)",
   "\x7d", "",
   "// X_Alias hold table name when call New_" ++ struct ++ " or " ++ struct ++
     "_Native.As that you defined.",
   "func (x *" ++ struct ++ "_Native) X_Alias() string \x7b",
   "\treturn x.xAlias",
   "\x7d", "",
   "// TableName hold model `" ++ struct ++ "` table name returns `" ++ table ++ "`.",
   "func (*" ++ struct ++ "_Native) TableName() string \x7b",
   "\treturn " ++ tableConst struct,
   "\x7d", "",
   "// New_Executor new entity executor which suggest use only once.",
   "func (*" ++ struct ++ "_Native) New_Executor(db *gorm.DB) *rapier.Executor[" ++ model ++
     "] \x7b",
   "\treturn rapier.NewExecutor[" ++ model ++ "](db)",
   "\x7d", ""]

/-- The method that selects all columns. -/
def selectBlock (struct : String) (fields : List Field) : List String :=
  ["// Select_Expr select model fields",
   "func (x *" ++ struct ++ "_Native) Select_Expr() []rapier.Expr \x7b",
   "\treturn []rapier.Expr\x7b"] ++
  fields.map (fun f => "\t\tx." ++ f.goName ++ ",") ++
  ["\t\x7d", "\x7d", ""]

/-- The expression that selects a column, a time as a number. -/
def variant (f : Field) (withPrefixes : Bool) : String :=
  "x." ++ f.goName ++
    (if f.kind = .time then
      ".UnixTimestamp()" ++ (if f.nullable then ".IfNull(0)" else "") ++
        (if withPrefixes then "" else ".As(x." ++ f.goName ++ ".ColumnName())")
    else "") ++
    (if withPrefixes then ".As(x." ++ f.goName ++ ".FieldName(prefixes...))" else "") ++ ","

/-- The method that selects all columns, times as numbers, possibly under prefixes. -/
def variantBlock (struct : String) (fields : List Field) : List String :=
  ["// Select_VariantExpr select model fields, but time.Time field convert to timestamp(int64).",
   "func (x *" ++ struct ++ "_Native) Select_VariantExpr(prefixes ...string) []rapier.Expr \x7b",
   "\tif len(prefixes) > 0 && prefixes[0] != \"\" \x7b",
   "\t\treturn []rapier.Expr\x7b"] ++
  fields.map (fun f => "\t\t\t" ++ variant f true) ++
  ["\t\t\x7d",
   "\t\x7d else \x7b",
   "\t\treturn []rapier.Expr\x7b"] ++
  fields.map (fun f => "\t\t\t" ++ variant f false) ++
  ["\t\t\x7d", "\t\x7d", "\x7d", ""]

/-- The lines of an entity whose fields have the names of their accessors. -/
def bodyLines (a : Accessors) (e : Entity) : List String :=
  let struct := e.structName
  constBlock struct e.name e.fields ++
    ["var xxx_" ++ struct ++ "_Model = new_" ++ struct ++ "(" ++ tableConst struct ++ ")", ""] ++
    typeBlock struct e.fields ++
    sharedBlock struct e.name ++
    builderBlock struct e.fields ++
    methodBlocks struct e.name (a.modelQualifier ++ struct) ++
    selectBlock struct e.fields ++
    variantBlock struct e.fields

/-- The text of an entity, unless it is refused. -/
def entity (a : Accessors) (e : Entity) : Except EmitError String :=
  if !Naming.isGoIdentifier e.structName then .error ⟨e.name, .accessorStruct e.structName⟩
  -- the names keep clear of the members, on top of what the options reserved before
  else .ok (String.intercalate "\n" (a.bodyLines (e.resolveNames nativeMembers)))

/-- The file of some entities. -/
def emit (a : Accessors) (es : List Entity) : Except EmitError String := do
  let bodies ← es.mapM a.entity
  return a.header.render "//" ++ "package " ++ a.package ++ "\n\nimport (\n" ++
    (if a.modelImportPath = "" then "" else "\t\"" ++ a.modelImportPath ++ "\"\n\n") ++
    "\trapier \"github.com/thinkgos/gorm-rapier\"\n\t\"gorm.io/gorm\"\n)\n\n" ++ String.join bodies

end Accessors

end Tablewright.Artifact
