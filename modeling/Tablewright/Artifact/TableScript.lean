import Tablewright.Artifact.Header

/-! # Table scripts

An SQL script that creates the table of every entity, with the foreign keys that the entity keeps. A
table without columns cannot be created. -/

namespace Tablewright.Artifact

/-- How scripts are written. -/
structure TableScript where
  header : Header
  deriving DecidableEq, Inhabited

namespace TableScript

/-- The statement that creates the table of an entity. -/
def createTable (e : Entity) : Except EmitError String :=
  match e.fields.filterMap (·.column?) with
  | [] => .error ⟨e.name, .noColumns⟩
  | c :: cs =>
    .ok (e.table.createStatement (c :: cs) (e.indexes.filterMap (·.index?))
      (e.foreignKeys.filterMap (·.key?)))

/-- The script of some entities. -/
def emit (s : TableScript) (es : List Entity) : Except EmitError String := do
  let statements ← es.mapM createTable
  return s.header.render "--" ++ String.intercalate "\n\n" statements ++ "\n"

end TableScript

end Tablewright.Artifact
