import Tablewright.Entity.Basic
import Tablewright.Text.Line

/-! # Headers and refusals

Every artifact starts with a header that says what generated it, unless that is disabled. An artifact
is refused when a name of an entity cannot be written in its language; the refusal names the
entity and the cause. -/

namespace Tablewright.Artifact

/-- What an artifact says about its generator. -/
structure Header where
  byName : String
  version : String
  disabled : Bool
  deriving DecidableEq

/-- The header of this generator. -/
def Header.standard : Header := ⟨"ormat", "0.1.0", false⟩

/-- No header. -/
def Header.none : Header := { Header.standard with disabled := true }

instance : Inhabited Header := ⟨.standard⟩

/-- The lines of a header, each behind the sign that starts a comment, and an empty line. -/
def Header.render (h : Header) (leader : String) : String :=
  if h.disabled then ""
  else
    leader ++ " Code generated by " ++ h.byName ++ ". DO NOT EDIT.\n" ++
      leader ++ " version: " ++ h.version ++ "\n\n"

/-- Why an entity cannot be written. -/
inductive Cause where
  | structName (name : String)
  | fieldName (column goName : String)
  | messageName (name : String)
  | messageField (name : String)
  | noColumns
  | accessorStruct (name : String)
  deriving DecidableEq, Inhabited

/-- The wording of a cause. -/
def Cause.message : Cause → String
  | structName name => "`" ++ name ++ "` is not a valid Go struct name"
  | fieldName column goName => "field `" ++ column ++ "` has invalid Go name `" ++ goName ++ "`"
  | messageName name => "`" ++ name ++ "` is not a valid message name"
  | messageField name => "`" ++ name ++ "` is not a valid field name"
  | noColumns => "table has no columns"
  | accessorStruct name => "`" ++ name ++ "` is not a valid Go identifier"

/-- An entity cannot be written. -/
structure EmitError where
  entity : String
  cause : Cause
  deriving DecidableEq, Inhabited

/-- The wording of a refusal. -/
def EmitError.message (e : EmitError) : String :=
  e.entity ++ ": " ++ e.cause.message

/-- The line that documents a generated type. -/
def docLine (name comment : String) : String :=
  let doc := Text.onChars Text.singleLine comment
  if doc = "" then "// " ++ name ++ "\n" else "// " ++ name ++ " " ++ doc ++ "\n"

end Tablewright.Artifact
