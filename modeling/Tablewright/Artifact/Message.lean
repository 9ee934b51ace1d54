import Tablewright.Artifact.Header
import Tablewright.Comment.Directive
import Tablewright.Dict
import Tablewright.Naming.Identifier

/-! # Protobuf messages

A protobuf file with one message per entity. A field is optional when its column is nullable, and
its number is its place. Wide integers, and times that are written as integers, carry an annotation
for the API description; a type from a comment replaces both type and annotation. -/

namespace Tablewright.Artifact

/-- Whether a message field may be left out. -/
inductive Cardinality where
  | optional
  | required
  deriving DecidableEq, Inhabited

/-- What stands in front of the type. A required field has no label. -/
def Cardinality.label : Cardinality → String
  | optional => "optional "
  | required => ""

/-- A field of a message. -/
structure MessageField where
  cardinality : Cardinality
  kind : ProtoKind
  typeName : String
  name : String
  columnName : String
  comment : String
  annotations : List String
  deriving DecidableEq, Inhabited

/-- How messages are written. -/
structure ProtoFile where
  /-- The package; none if it is empty. -/
  package : String
  /-- The options of the file. -/
  options : Dict String
  /-- The style of field names; without one they are the column names. -/
  style : Option Naming.Style
  /-- Write booleans as integers. -/
  disableBool : Bool
  /-- Write times as integers. -/
  disableTimestamp : Bool
  header : Header
  deriving DecidableEq, Inhabited

/-- The annotation that describes a field as an integer. -/
def integerHint : String :=
  "(grpc.gateway.protoc_gen_openapiv2.options.openapiv2_field) = \x7b type: [ INTEGER ] \x7d"

namespace ProtoFile

/-- The type of a column kind, its spelling and its annotations. -/
def typeOf (p : ProtoFile) (k : ColumnKind) : ProtoKind × String × List String :=
  match k with
  | .bool => if p.disableBool then (.int32, ProtoKind.int32.name, []) else (k.toProto, k.protoName, [])
  | .time =>
    if p.disableTimestamp then (.int64, ProtoKind.int64.name, [integerHint])
    else (k.toProto, k.protoName, [])
  | .int64 | .uint64 => (k.toProto, k.protoName, [integerHint])
  | _ => (k.toProto, k.protoName, [])

/-- The message field of an entity's field. -/
def messageField (p : ProtoFile) (f : Field) : MessageField :=
  let (kind, typeName, annotations) := match Comment.pbType? f.comment with
    -- a type from the comment brings no annotations
    | some custom => (.message, custom, [])
    | none => p.typeOf f.kind
  { cardinality := if f.nullable then .optional else .required
    kind := kind
    typeName := typeName
    name := match p.style with
      | some style => style.apply f.name
      | none => f.name
    columnName := f.name
    comment := Text.onChars Text.singleLine (Comment.strip f.comment)
    annotations := annotations }

/-- The lines of a message field with a number. -/
def fieldLines (m : MessageField) (number : Nat) : String :=
  (if m.comment = "" then "" else "  // " ++ m.comment ++ "\n") ++
    "  " ++ m.cardinality.label ++ m.typeName ++ " " ++ m.name ++ " = " ++ toString number ++
    (if m.annotations = [] then "" else " [" ++ String.intercalate ", " m.annotations ++ "]") ++ ";\n"

/-- The name of the message of an entity. -/
def messageName (e : Entity) : String :=
  Naming.camelCase e.name

/-- The fields of the message of an entity. -/
def messageFields (p : ProtoFile) (e : Entity) : List MessageField :=
  e.fields.map p.messageField

/-- Why an entity cannot be written as a message, if it cannot. -/
def refusal? (p : ProtoFile) (e : Entity) : Option Cause :=
  if !Naming.isProtoIdentifier (messageName e) then some (.messageName (messageName e))
  else ((p.messageFields e).find? fun m => !Naming.isProtoIdentifier m.name).map fun m =>
    .messageField m.name

/-- The message of an entity. -/
def body (p : ProtoFile) (e : Entity) : String :=
  docLine (messageName e) e.comment ++
    "message " ++ messageName e ++ " \x7b\n" ++
    -- field numbers start at one
    String.join ((p.messageFields e).zipIdx.map fun m => fieldLines m.1 (m.2 + 1)) ++
    "\x7d\n"

/-- The message of an entity, unless it is refused. -/
def entity (p : ProtoFile) (e : Entity) : Except EmitError String :=
  match p.refusal? e with
  | some cause => .error ⟨e.name, cause⟩
  | none => .ok (p.body e)

/-- The files that the messages of entities need. -/
def imports (p : ProtoFile) (es : List Entity) : List String :=
  let fields := es.flatMap p.messageFields
  (if fields.any fun m => m.typeName == timestampMessage then ["google/protobuf/timestamp.proto"]
    else []) ++
  (if fields.any fun m => m.annotations != [] then
      ["protoc-gen-openapiv2/options/annotations.proto"]
    else [])

/-- Lines and an empty line behind them; nothing without lines. -/
def block (lines : List String) : String :=
  if lines = [] then "" else String.join (lines.map fun l => l ++ "\n") ++ "\n"

/-- The file of some entities. -/
def emit (p : ProtoFile) (es : List Entity) : Except EmitError String := do
  let messages ← es.mapM p.entity
  return p.header.render "//" ++ "syntax = \"proto3\";\n\n" ++
    (if p.package = "" then "" else "package " ++ p.package ++ ";\n\n") ++
    block ((p.imports es).map fun path => "import \"" ++ path ++ "\";") ++
    block (p.options.entries.map fun o => "option " ++ o.1 ++ " = \"" ++ o.2 ++ "\";") ++
    String.intercalate "\n" messages

end ProtoFile

end Tablewright.Artifact
