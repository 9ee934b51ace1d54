import Tablewright.Column.Kind
import Tablewright.Text.Blank
import Tablewright.Unicode.Case

/-! # Rule tables

A dialect decides the kind of a column by an ordered table of rules over the raw type. The first
rule that accepts the normalized type (trimmed, ASCII letters in lower case) gives the kind, so a
special spelling stands in front of the general one. -/

namespace Tablewright.Dialect

/-- A rule: which normalized types it accepts, and the kind it gives to them. -/
structure Rule where
  accepts : List Char → Bool
  kind : ColumnKind

/-- The form of a raw type that rules see. -/
def normalized (raw : String) : List Char :=
  Unicode.asciiLower (Text.trim raw.toList)

/-- No rule accepts the raw type. -/
structure UnsupportedType where
  raw : String
  deriving DecidableEq, Inhabited

/-- The wording of the refusal. -/
def UnsupportedType.message (e : UnsupportedType) : String :=
  "unsupported column type `" ++ e.raw ++ "`"

/-- The kind of the first rule that accepts the raw type. -/
def resolve (table : List Rule) (raw : String) : Except UnsupportedType ColumnKind :=
  match table.find? fun rule => rule.accepts (normalized raw) with
  | some rule => .ok rule.kind
  | none => .error ⟨raw⟩

end Tablewright.Dialect
