import Tablewright.Entity.Basic
import Tablewright.Options

/-! # Type rules

What the options make of the type of a field. The marker of an integer soft-delete column is final.
Any other field may be widened, may have its boolean made an integer, and may get a wrapper type in
the place of a pointer, in this order. All rules ask for the column kind, and none changes it. -/

namespace Tablewright.Field

/-- Does the field mark rows as deleted? -/
def marksDeleted (f : Field) : Bool :=
  f.name == "deleted_at" && f.kind.isInteger

/-- The Go type and the accessor type that an integer is widened to. -/
def widened? (o : Options) : ColumnKind → Option (String × RapierKind)
  | .int32 => if o.enableIntegerInt || o.enableInt then some ("int", .int) else none
  | .uint32 => if o.enableIntegerInt || o.enableInt then some ("uint", .uint) else none
  | .int8 | .int16 => if o.enableInt then some ("int", .int) else none
  | .uint8 | .uint16 => if o.enableInt then some ("uint", .uint) else none
  | _ => none

/-- Give the field the soft-delete marker. -/
def withMarker (f : Field) : Field :=
  { f with goType := .softDelete f.kind, goPointer := false }

/-- Widen an integer. -/
def widen (o : Options) (f : Field) : Field :=
  match widened? o f.kind with
  | some (ident, kind) => { f with goType := .ofIdent f.kind ident "", rapierKind := kind }
  | none => f

/-- Make a boolean an integer. -/
def boolToInt (o : Options) (f : Field) : Field :=
  if o.enableBoolInt && f.kind == .bool then
    { f with goType := .ofIdent .bool "int" "", rapierKind := .int }
  else f

/-- Give a nullable field a wrapper type. -/
def wrapNull (o : Options) (f : Field) : Field :=
  if o.disableNullToPoint && f.nullable then
    match GoType.sqlNull? f.kind with
    | some wrapper => { f with goType := wrapper, goPointer := false }
    | none => f
  else f

/-- Apply the type rules. -/
def retype (o : Options) (f : Field) : Field :=
  -- the marker stays as it is; the wrapper has the last word on all other fields
  if f.marksDeleted then f.withMarker else wrapNull o (boolToInt o (widen o f))

end Tablewright.Field
