/-! # JSON documents

A document is read from left to right, and whoever decodes it wants to know the first thing that is
wrong with it. So a `Json` is a document as far as it could be read: `broken` and `absent` mark where
reading stopped, a container remembers what was wrong where its closing bracket was due, and a
quoted text may be one that is no Unicode text. A document without such marks is `whole`. -/

namespace Tablewright

namespace Json

/-- What is wrong with a document. -/
inductive Fault where
  /-- The text ends too early. -/
  | truncated
  /-- The text is not JSON. -/
  | malformed
  /-- A value is not of the type that is asked for. -/
  | mistyped
  deriving DecidableEq, Inhabited

/-- A quoted text as far as it could be read. -/
inductive Str where
  | text (s : String)
  /-- Half of a surrogate pair is escaped in it: there is no such text, though it can be skipped up
  to its closing quote unless a fault comes first. -/
  | unpaired (after : Option Fault)
  | broken (fault : Fault)
  deriving DecidableEq, Inhabited

end Json

/-- A JSON document as far as it could be read. -/
inductive Json where
  | null
  | bool (b : Bool)
  /-- A number, as it is written. -/
  | number (lexeme : String)
  | string (s : Json.Str)
  /-- The items of an array, and what stood in the place of a comma or the closing bracket. -/
  | array (items : List Json) (fault : Option Json.Fault)
  /-- The members of an object; a key is a document too, but only a text is one that can be used. -/
  | object (members : List (Json × Json)) (fault : Option Json.Fault)
  /-- A word or number that starts with `opening` and cannot be completed. -/
  | broken (opening : Char) (fault : Json.Fault)
  /-- No value starts where one is due. -/
  | absent (fault : Json.Fault)
  deriving Inhabited

namespace Json

/-- A text as a document. -/
def ofText (s : String) : Json :=
  .string (.text s)

/-- An object with these members. -/
def record (members : List (String × Json)) : Json :=
  .object (members.map fun m => (ofText m.1, m.2)) none

/-- An array with these items. -/
def list (items : List Json) : Json :=
  .array items none

end Json

end Tablewright
