import Tablewright.Naming.Words

/-! # Naming styles

The styles in which a tag value or a message field can spell a name, and the names by which options
ask for them. `camelCase` is the exported form of a table or column name. -/

namespace Tablewright.Naming

/-- How the words of a name are put together. -/
inductive Style where
  /-- `createdAt` -/
  | smallCamelCase
  /-- `CreatedAt` -/
  | camelCase
  /-- `created_at` -/
  | snakeCase
  /-- `created-at` -/
  | kebab
  deriving DecidableEq, Inhabited

/-- The style with this name, as options write it. -/
def Style.ofName? (name : String) : Option Style :=
  if name = "smallCamelCase" then some .smallCamelCase
  else if name = "camelCase" ∨ name = "pascalCase" then some .camelCase
  else if name = "snakeCase" then some .snakeCase
  else if name = "kebab" ∨ name = "kebab-case" then some .kebab
  else none

/-- Put words together in a style. -/
def Style.assemble : Style → List (List Char) → List Char
  | _, [] => []
  | .smallCamelCase, w :: ws => lowerWord w ++ ws.flatMap capitalize
  | .camelCase, ws => ws.flatMap capitalize
  | .snakeCase, ws => List.intercalate ['_'] (ws.map lowerWord)
  | .kebab, ws => List.intercalate ['-'] (ws.map lowerWord)

/-- Spell a name in a style. -/
def Style.apply (style : Style) (name : String) : String :=
  Text.onChars (fun s => style.assemble (nameWords s)) name

/-- The exported name of a table or column: its words, capitalized. -/
def camelCase (name : String) : String :=
  Style.camelCase.apply name

end Tablewright.Naming
