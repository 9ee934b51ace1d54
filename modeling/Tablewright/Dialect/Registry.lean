import Tablewright.Dialect.Builtin
import Tablewright.Dict
import Tablewright.Text.Shown

/-! # The registry of dialects

Mappers are found by name in a registry. A name belongs to the mapper that was registered first;
registering it again is refused. -/

namespace Tablewright.Dialect

/-- Mappers by name. -/
structure Registry where
  mappers : Dict Mapper

/-- Why a registry refused a request. -/
inductive RegistryError where
  /-- The name is already taken. -/
  | duplicate (name : String)
  /-- There is no mapper of this name; `available` are the names that there are. -/
  | unknown (name : String) (available : List String)
  deriving DecidableEq

/-- The wording of the refusal. -/
def RegistryError.message : RegistryError → String
  | duplicate name => "dialect `" ++ name ++ "` is already registered"
  | unknown name available =>
    "unknown dialect `" ++ name ++ "` (available: " ++ String.intercalate ", " available ++ ")"

namespace Registry

/-- The registry without mappers. -/
def empty : Registry := ⟨.empty⟩

/-- The registry of the built-in mappers. -/
def builtin : Registry :=
  ⟨.ofList [(mysql.dialect, mysql), (tidb.dialect, tidb)]⟩

/-- The registered names, in ascending order. -/
def names (r : Registry) : List String :=
  r.mappers.keys

/-- Register a mapper under a new name. -/
def register (r : Registry) (name : String) (mapper : Mapper) : Except RegistryError Registry :=
  if r.mappers.contains name then .error (.duplicate name)
  else .ok ⟨r.mappers.insert name mapper⟩

/-- The mapper of a name. -/
def get (r : Registry) (name : String) : Except RegistryError Mapper :=
  match r.mappers.get? name with
  | some mapper => .ok mapper
  | none => .error (.unknown name r.names)

/-- The registry in one line of text. -/
def describe (r : Registry) : String :=
  "DialectRegistry \x7b dialects: [" ++ String.intercalate ", " (r.names.map Text.shown) ++ "] \x7d"

end Registry

end Tablewright.Dialect
