import Tablewright.Json.Shape
import Tablewright.Dict

/-! # Formats

A `Format` ties a type to its documents: the shape they have, the value that a fitting document
stands for, and the document that is written for a value. `Format.read` decodes a text. -/

namespace Tablewright.Json

/-- How values of a type are written as documents. -/
structure Format (α : Type) where
  shape : Shape
  /-- The value of a document that fits the shape. -/
  decode : Json → α
  encode : α → Json

/-- The value that a text stands for, or the first fault in it. -/
def Format.read {α : Type} (format : Format α) (text : String) : Except Fault α :=
  let (j, more) := Json.read text
  match fault? format.shape j with
  | some fault => .error fault
  | none => if more then .error .malformed else .ok (format.decode j)

namespace Format

/-- Texts. -/
def text : Format String where
  shape := .text
  decode j := j.text?.getD ""
  encode := ofText

/-- Booleans. -/
def flag : Format Bool where
  shape := .flag
  decode
    | .bool b => b
    | _ => false
  encode := .bool

/-- Lists. -/
def list {α : Type} (item : Format α) : Format (List α) where
  shape := .list item.shape
  decode
    | .array items _ => items.map item.decode
    | _ => []
  encode xs := Json.list (xs.map item.encode)

/-- Dictionaries. Of several entries with one key the last counts. -/
def dict {α : Type} (value : Format α) : Format (Dict α) where
  shape := .dict value.shape
  decode
    | .object members _ => .ofList (members.map fun m => (m.1.text?.getD "", value.decode m.2))
    | _ => .empty
  encode d := Json.record (d.entries.map fun e => (e.1, value.encode e.2))

/-- One of some words, each with the value it stands for. -/
def word {α : Type} [Inhabited α] (words : List (String × α)) (nameOf : α → String) :
    Format α where
  shape := .word (words.map (·.1))
  decode j :=
    let name := match j with
      | .object ((k, _) :: _) _ => k.text?.getD ""
      | j => j.text?.getD ""
    (words.lookup name).getD default
  encode x := ofText (nameOf x)

end Format

/-! ## Records -/

/-- What a record holds for a field. -/
def slot? (fields : List (String × Presence × Shape)) (j : Json) (name : String) : Option Json :=
  match j with
  | .object members _ => (members.find? fun m => m.1.text? == some name).map (·.2)
  | .array items _ => items[(fields.map (·.1)).idxOf name]?
  | _ => none

/-- The value of a field, or its default. -/
def Format.at {α : Type} (format : Format α) (slot : Option Json) (otherwise : α) : α :=
  (slot.map format.decode).getD otherwise

/-- The value of a nullable field. -/
def Format.optionalAt {α : Type} (format : Format α) (slot : Option Json) : Option α :=
  match slot with
  | none | some .null => none
  | some j => some (format.decode j)

/-- The document of a nullable field. -/
def Format.encodeOptional {α : Type} (format : Format α) : Option α → Json
  | none => .null
  | some x => format.encode x

end Tablewright.Json
