import Tablewright.Json.Magnitude
import Tablewright.Json.Tree

/-! # Shapes of documents

A `Shape` says what a document has to look like, and `fault?` finds the first thing in a document,
from left to right, that does not fit:

* a value of another type is a fault where the value starts, before anything inside it;
* a record may also be written as the array of its fields in their declared order; it may leave out
  fields that have a default, hold members that are no fields (which are skipped), but no field
  twice;
* a word stands for itself or, as an object, for a word that holds `null`; a tagged text is an
  object with one member.

Nothing is asked of skipped values but that they are JSON. -/

namespace Tablewright.Json

/-- When a field of a record may be left out. -/
inductive Presence where
  | required
  | defaulted
  /-- It may be left out, and it may be `null`. -/
  | nullable
  deriving DecidableEq, Inhabited

/-- What a document has to look like. -/
inductive Shape where
  | text
  | flag
  | list (item : Shape)
  /-- An object whose keys are free. -/
  | dict (value : Shape)
  /-- One of some words. -/
  | word (words : List String)
  /-- A text under one of some tags. -/
  | tagged (tags : List String)
  | record (fields : List (String × Presence × Shape))
  deriving Inhabited

/-! ## Skipping and mismatches -/

/-- The text of a key or value. -/
def text? : Json → Option String
  | .string (.text s) => some s
  | _ => none

/-- The fault that a value of the wrong type is. -/
def misfit : Json → Fault
  | .null | .bool _ | .array _ _ | .object _ _ => .mistyped
  | .number lexeme => if outOfRange lexeme then .malformed else .mistyped
  | .string (.text _) => .mistyped
  | .string (.unpaired _) => .malformed
  | .string (.broken f) => f
  | .broken _ f => f
  | .absent f => f

/-- The fault of what stands in the place of a key, if that is no text. -/
def keyFault? : Json → Option Fault
  | .string (.text _) => none
  | .string s => some (misfit (.string s))
  | .absent f => some f
  | _ => some .malformed

/-- The fault of a quoted text that is skipped. -/
def Str.skipFault? : Str → Option Fault
  | text _ => none
  | unpaired after => after
  | broken f => some f

mutual

/-- The first fault in a value that is skipped. -/
def skipFault? : Json → Option Fault
  | .null | .bool _ | .number _ => none
  | .string s => s.skipFault?
  | .array items fault => (skipItems items).or fault
  | .object members fault => (skipMembers members).or fault
  | .broken c f => some (if (wordOf? c).isSome then f else .malformed)
  | .absent f => some f

/-- The first fault in items that are skipped. -/
def skipItems : List Json → Option Fault
  | [] => none
  | j :: js => (skipFault? j).or (skipItems js)

/-- The first fault in members that are skipped. -/
def skipMembers : List (Json × Json) → Option Fault
  | [] => none
  | (k, j) :: ms => (skipKey k).or ((skipFault? j).or (skipMembers ms))

/-- The fault of a key that is skipped. -/
def skipKey : Json → Option Fault
  | .string s => s.skipFault?
  | .absent f => some f
  | _ => some .malformed

end

/-! ## The first fault -/

/-- The fault of a value that is no container. -/
def scalarFault? (shape : Shape) (j : Json) : Option Fault :=
  match shape, j with
  | .text, .string (.text _) => none
  | .flag, .bool _ => none
  | .word words, .string (.text s) => if words.contains s then none else some .mistyped
  | .word _, .string s => some (misfit (.string s))
  | .word _, .absent f => some f
  | .word _, _ => some .malformed
  | .tagged _, .string s => some (misfit (.string s))
  | .tagged _, .absent f => some f
  | .tagged _, _ => some .malformed
  | _, j => some (misfit j)

/-- The fault of an object that has to hold one member, with one of some keys and a fitting value. -/
def choiceFault? (keys : List String) (payload : Json → Option Fault)
    (members : List (Json × Json)) (fault : Option Fault) : Option Fault :=
  match members with
  | [] => some (fault.getD .malformed)
  | (k, j) :: rest =>
    match k.text? with
    | none => keyFault? k
    | some name =>
      if !keys.contains name then some .mistyped
      else (payload j).or (if rest.isEmpty then fault else some .malformed)

/-- What a nullable field says to a value before its shape is asked, if it says anything. -/
def nullVerdict? (presence : Presence) (j : Json) : Option (Option Fault) :=
  match presence, j with
  | .nullable, .null => some none
  | .nullable, .broken 'n' f => some (some f)
  | _, _ => none

/-- Is one of these fields required? -/
def anyRequired (fields : List (String × Presence × Shape)) : Bool :=
  fields.any fun f => f.2.1 == .required

mutual

/-- The first fault of a document under a shape. -/
def fault? (shape : Shape) : Json → Option Fault
  | .array items fault =>
    match shape with
    | .list item => (itemsFault? item items).or fault
    -- a record as the array of its fields
    | .record fields => fieldsFault? fields fault items
    | .word _ | .tagged _ => some .malformed
    | _ => some .mistyped
  | .object members fault =>
    match shape with
    | .dict value => (entriesFault? value members).or fault
    | .record fields => membersFault? fields [] fault members
    | .word words =>
      choiceFault? words (fun j => match j with | .null => none | j => some (misfit j)) members fault
    | .tagged tags => choiceFault? tags (scalarFault? .text) members fault
    | _ => some .mistyped
  | j => scalarFault? shape j

/-- The first fault in the items of a list. -/
def itemsFault? (item : Shape) : List Json → Option Fault
  | [] => none
  | j :: js => (fault? item j).or (itemsFault? item js)

/-- The first fault in the entries of a dictionary. -/
def entriesFault? (value : Shape) : List (Json × Json) → Option Fault
  | [] => none
  | (k, j) :: ms => (keyFault? k).or ((fault? value j).or (entriesFault? value ms))

/-- The first fault in a record that is written as an array. -/
def fieldsFault? (fields : List (String × Presence × Shape)) (fault : Option Fault) :
    List Json → Option Fault
  -- what the array leaves out is missing at its end only
  | [] => fault.or (if anyRequired fields then some .mistyped else none)
  | j :: js =>
    match fields with
    | [] => some .malformed
    | (_, presence, shape) :: fields =>
      ((nullVerdict? presence j).getD (fault? shape j)).or (fieldsFault? fields fault js)

/-- The first fault in a record that is written as an object; `seen` are its fields so far. -/
def membersFault? (fields : List (String × Presence × Shape)) (seen : List String)
    (fault : Option Fault) : List (Json × Json) → Option Fault
  | [] =>
    fault.or (if anyRequired (fields.filter fun f => !seen.contains f.1) then some .mistyped
      else none)
  | (k, j) :: ms =>
    (keyFault? k).or <|
      match k.text? with
      | none => none
      | some name =>
        match fields.lookup name with
        -- no field of this name
        | none => (skipFault? j).or (membersFault? fields seen fault ms)
        | some (presence, shape) =>
          if seen.contains name then some .mistyped
          else ((nullVerdict? presence j).getD (fault? shape j)).or
            (membersFault? fields (name :: seen) fault ms)

end

end Tablewright.Json
