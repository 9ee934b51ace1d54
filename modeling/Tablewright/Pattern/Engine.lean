import Tablewright.Pattern.Library
import Tablewright.Pattern.Reader
import Tablewright.Pattern.Weight

/-! # An engine for patterns

The library that the program runs with. It refuses a list of patterns as a whole if one of them cannot
be read or is nested too deeply, or if all of them together are too heavy. It knows the properties of
characters in `Escape.property?` and no others, so it refuses patterns that name another one. -/

namespace Tablewright.Pattern

/-- Why the engine refuses patterns. -/
inductive Refusal where
  /-- The text is no pattern. -/
  | unreadable (pattern : String)
  | nestedTooDeeply (pattern : String)
  /-- The patterns ask for automata that are too heavy. -/
  | tooHeavy
  deriving DecidableEq, Inhabited

/-- The wording of a refusal. -/
def Refusal.message : Refusal → String
  | unreadable pattern => "`" ++ pattern ++ "` is no pattern"
  | nestedTooDeeply pattern => "`" ++ pattern ++ "` is nested too deeply"
  | tooHeavy => "the patterns are too large"

/-- The term of a pattern. -/
def Term.read (pattern : String) : Except Refusal Term :=
  match Term.read? pattern with
  | none => .error (.unreadable pattern)
  | some t => if t.depth ≤ depthLimit then .ok t else .error (.nestedTooDeeply pattern)

/-- The expressions of some patterns. -/
def Regex.readAll (patterns : List String) : Except Refusal (List Regex) := do
  let ts ← patterns.mapM Term.read
  if fits ts then return ts.map Term.regex else throw .tooHeavy

/-- The places of the expressions that are found in a text. -/
def Regex.places (rs : List Regex) (text : List Char) : List Nat :=
  (rs.zipIdx.filter fun r => r.1.foundIn text).map Prod.snd

/-- The engine as a library. -/
instance engine : Library where
  compile patterns :=
    match Regex.readAll patterns with
    | .ok rs => .ok (Regex.places rs)
    | .error e => .error ⟨e.message⟩

end Tablewright.Pattern
