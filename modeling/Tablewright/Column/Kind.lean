/-! # Column kinds

A dialect maps the raw type of a column to one of 22 canonical kinds. All that is generated for a
column starts from its kind: `ColumnKind.name` is its display name, `toProto` the protobuf type and
`toRapier` the typed accessor of the query layer. -/

namespace Tablewright

/-- The canonical kind of a column. -/
inductive ColumnKind where
  | invalid
  | bool
  | int8
  | int16
  | int32
  | int64
  | int
  | uint8
  | uint16
  | uint32
  | uint64
  | uint
  | float32
  | float64
  | decimal
  | string
  | enum
  | bytes
  | time
  | json
  | uuid
  | other
  deriving DecidableEq, Inhabited

namespace ColumnKind

/-- All kinds, in their canonical order. -/
def all : List ColumnKind :=
  [invalid, bool, int8, int16, int32, int64, int, uint8, uint16, uint32, uint64, uint,
   float32, float64, decimal, string, enum, bytes, time, json, uuid, other]

/-- The place of a kind in the canonical order. -/
def ordinal (k : ColumnKind) : Nat :=
  all.idxOf k

/-- The display name of a kind, which is also its Go spelling where it has one. -/
def name : ColumnKind → String
  | invalid => "invalid"
  | bool => "bool"
  | int8 => "int8"
  | int16 => "int16"
  | int32 => "int32"
  | int64 => "int64"
  | int => "int"
  | uint8 => "uint8"
  | uint16 => "uint16"
  | uint32 => "uint32"
  | uint64 => "uint64"
  | uint => "uint"
  | float32 => "float32"
  | float64 => "float64"
  | decimal | string | enum => "string"
  | bytes => "[]byte"
  | time => "time.Time"
  | json => "json.RawMessage"
  | uuid => "[16]byte"
  | other => "other"

/-- Signed integers, of fixed width or not. -/
def isSigned : ColumnKind → Bool
  | int8 | int16 | int32 | int64 | int => true
  | _ => false

/-- Unsigned integers, of fixed width or not. -/
def isUnsigned : ColumnKind → Bool
  | uint8 | uint16 | uint32 | uint64 | uint => true
  | _ => false

/-- Integers. -/
def isInteger (k : ColumnKind) : Bool :=
  k.isSigned || k.isUnsigned

/-- Binary floating point numbers. -/
def isFloat : ColumnKind → Bool
  | float32 | float64 => true
  | _ => false

/-- Integers and floating point numbers; decimals are not among them. -/
def isNumeric (k : ColumnKind) : Bool :=
  k.isInteger || k.isFloat

end ColumnKind

/-! ## Protobuf types -/

/-- The type of a protobuf field. -/
inductive ProtoKind where
  | bool
  | int32
  | int64
  | uint32
  | uint64
  | float
  | double
  | string
  | bytes
  | message
  deriving DecidableEq, Inhabited

/-- The protobuf spelling of a scalar type. -/
def ProtoKind.name : ProtoKind → String
  | bool => "bool"
  | int32 => "int32"
  | int64 => "int64"
  | uint32 => "uint32"
  | uint64 => "uint64"
  | float => "float"
  | double => "double"
  | string => "string"
  | bytes => "bytes"
  | message => "message"

/-- The message that holds a point in time. -/
def timestampMessage : String := "google.protobuf.Timestamp"

namespace ColumnKind

/-- The protobuf type of a column kind. -/
def toProto : ColumnKind → ProtoKind
  | bool => .bool
  | int8 | int16 | int32 => .int32
  | int64 | int => .int64
  | uint8 | uint16 | uint32 => .uint32
  | uint64 | uint => .uint64
  | float32 => .float
  | float64 => .double
  | bytes | uuid => .bytes
  | time => .message
  | invalid | decimal | string | enum | json | other => .string

/-- The spelling of a column kind's protobuf type. -/
def protoName (k : ColumnKind) : String :=
  if k = time then timestampMessage else k.toProto.name

end ColumnKind

/-! ## Accessor types of the query layer -/

/-- The type of a column accessor in the query layer. -/
inductive RapierKind where
  | field
  | bool
  | int8
  | int16
  | int32
  | int64
  | int
  | uint8
  | uint16
  | uint32
  | uint64
  | uint
  | float32
  | float64
  | string
  | decimal
  | bytes
  | time
  deriving DecidableEq, Inhabited

/-- The name of an accessor type. -/
def RapierKind.name : RapierKind → String
  | field => "Field"
  | bool => "Bool"
  | int8 => "Int8"
  | int16 => "Int16"
  | int32 => "Int32"
  | int64 => "Int64"
  | int => "Int"
  | uint8 => "Uint8"
  | uint16 => "Uint16"
  | uint32 => "Uint32"
  | uint64 => "Uint64"
  | uint => "Uint"
  | float32 => "Float32"
  | float64 => "Float64"
  | string => "String"
  | decimal => "Decimal"
  | bytes => "Bytes"
  | time => "Time"

/-- The accessor type of a column kind. -/
def ColumnKind.toRapier : ColumnKind → RapierKind
  | bool => .bool
  | int8 => .int8
  | int16 => .int16
  | int32 => .int32
  | int64 => .int64
  | int => .int
  | uint8 => .uint8
  | uint16 => .uint16
  | uint32 => .uint32
  | uint64 => .uint64
  | uint => .uint
  | float32 => .float32
  | float64 => .float64
  | decimal => .decimal
  | string | enum => .string
  | bytes => .bytes
  | time => .time
  | invalid | json | uuid | other => .field

end Tablewright
