/-! # Libraries of regular expressions

Nothing here searches for patterns itself. A list of them is handed to a library, which refuses them or
tells of a text which of them are found in it. Whatever asks for patterns is written for any `Library`;
which one it is, is left to the program that is run. -/

namespace Tablewright.Pattern

/-- Why a library refuses patterns, in its own words. -/
structure InvalidPattern where
  message : String
  deriving DecidableEq, Inhabited

/-- A library of regular expressions. -/
class Library where
  /-- Put some patterns together into a set. It gives the places in the list of the patterns that are
  found in a text. -/
  compile : List String → Except InvalidPattern (List Char → List Nat)

/-- The pattern that is found in exactly the texts that a pattern matches as a whole. -/
def whole (pattern : String) : String :=
  "^(?:" ++ pattern ++ ")$"

end Tablewright.Pattern
