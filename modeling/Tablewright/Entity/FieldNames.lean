import Tablewright.Entity.Basic

/-! # Names of struct fields

The struct fields of an entity need different names, none of them reserved. A field whose name is
not free gets an `X` in front of it until it is; in doing so it never takes the name that another
field came with. -/

namespace Tablewright

namespace FieldNames

/-- The names that no field may have, whatever the options say. -/
def reserved : List String := ["TableName"]

/-- A name with some `X` in front of it. -/
def escaped (name : String) (n : Nat) : String :=
  String.ofList (List.replicate n 'X') ++ name

/-- May a field that came with `name` be called `candidate`? Not if that is taken, nor if another
field came with it. -/
def isFree (taken born : List String) (name candidate : String) : Bool :=
  !taken.contains candidate && (candidate == name || !born.contains candidate)

/-- The name with as few `X` in front of it as make it free. There are more candidates than names
that could be in their way. -/
def freshName (taken born : List String) (name : String) : String :=
  let count := (List.range (taken.length + born.length + 1)).find? fun n =>
    isFree taken born name (escaped name n)
  escaped name (count.getD 0)

/-- Names in the place of `names`, which are gone through in order. -/
def assign (born : List String) (taken : List String) : List String → List String
  | [] => []
  | name :: names =>
    let fresh := freshName taken born name
    -- the names that are still to come must keep clear of this one
    fresh :: assign born (fresh :: taken) names

/-- The names that fields get in the place of the ones they came with. -/
def resolved (escapes names : List String) : List String :=
  assign names (reserved ++ escapes) names

end FieldNames

/-- The field under another name. -/
def Field.named (f : Field) (goName : String) : Field :=
  { f with goName := goName }

/-- Give the fields of an entity different names that are not reserved. -/
def Entity.resolveNames (e : Entity) (escapes : List String) : Entity :=
  let names := FieldNames.resolved escapes (e.fields.map (·.goName))
  { e with fields := List.zipWith Field.named e.fields names }

end Tablewright
