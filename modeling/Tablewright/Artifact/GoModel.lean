import Tablewright.Artifact.Header
import Tablewright.Dict
import Tablewright.Naming.Identifier

/-! # Go models

A Go file with one struct per entity. Each field stands on a line of its own with its type, its tags
and its comment, and the struct knows the name of its table. The file imports the packages of the
field types, each once and in ascending order. -/

namespace Tablewright.Artifact

/-- How Go models are written. -/
structure GoModel where
  package : String
  header : Header
  deriving DecidableEq, Inhabited

namespace GoModel

/-- The line of a field. -/
def fieldLine (f : Field) : String :=
  let comment := Text.onChars Text.singleLine f.comment
  "\t" ++ f.goName ++ " " ++ f.goTypeIdent ++
    (if f.tags = [] then "" else " `" ++ String.intercalate " " f.tags ++ "`") ++
    (if comment = "" then "" else " // " ++ comment)

/-- A text as a quoted Go literal. -/
def goLiteral (s : String) : String :=
  "\"" ++ Text.onChars (Text.escape '"') s ++ "\""

/-- Why an entity cannot be written as a struct, if it cannot. -/
def refusal? (e : Entity) : Option Cause :=
  if !Naming.isGoIdentifier e.structName then some (.structName e.structName)
  else (e.fields.find? fun f => !Naming.isGoIdentifier f.goName).map fun f =>
    .fieldName f.name f.goName

/-- The struct of an entity and its method. -/
def body (e : Entity) : String :=
  docLine e.structName e.comment ++
    "type " ++ e.structName ++ " struct \x7b\n" ++
    String.join (e.fields.map fun f => fieldLine f ++ "\n") ++
    "\x7d\n\n" ++
    "// TableName implement schema.Tabler interface\n" ++
    "func (*" ++ e.structName ++ ") TableName() string \x7b\n" ++
    "\treturn " ++ goLiteral e.name ++ "\n\x7d\n"

/-- The struct of an entity, unless it is refused. -/
def entity (e : Entity) : Except EmitError String :=
  match refusal? e with
  | some cause => .error ⟨e.name, cause⟩
  | none => .ok (body e)

/-- The packages that the fields of entities need, in ascending order. -/
def imports (es : List Entity) : List String :=
  let paths := es.flatMap fun e => e.fields.map fun f => f.goType.pkgPath
  -- a dictionary holds each path once and in order
  (Dict.ofList ((paths.filter fun p => p != "").map fun p => (p, ()))).keys

/-- The import block of a file; nothing without imports. -/
def importBlock (paths : List String) : String :=
  if paths = [] then ""
  else "import (\n" ++ String.join (paths.map fun p => "\t\"" ++ p ++ "\"\n") ++ ")\n\n"

/-- The file of some entities. -/
def emit (m : GoModel) (es : List Entity) : Except EmitError String := do
  let bodies ← es.mapM entity
  return m.header.render "//" ++ "package " ++ m.package ++ "\n\n" ++ importBlock (imports es) ++
    String.intercalate "\n" bodies

end GoModel

end Tablewright.Artifact
