import Tablewright.Dialect.RuleTable
import Tablewright.Pattern.Library

/-! # Rules from patterns

A rule table written as patterns. They are put together into a set, and the rule of a pattern accepts the
normalized types in which it is the first that the set reports. A table is refused as a whole when its
patterns are. -/

namespace Tablewright.Dialect

open Pattern (InvalidPattern Library)

/-- The rule table of some patterns. -/
def rulesOfPatterns [Library] (patterns : List (String × ColumnKind)) :
    Except InvalidPattern (List Rule) := do
  let found ← Library.compile (patterns.map Prod.fst)
  return (patterns.map Prod.snd).mapIdx fun place kind =>
    ⟨fun text => (found text).head? == some place, kind⟩

end Tablewright.Dialect
