import Tablewright.Options
import Tablewright.Text.Blank

/-! # Overlays

What a command line says about the options is laid over the configured ones. Switches are only ever
turned on. The tags are gone through in order: a tag with a style is set, one with an empty style is
dropped. Names to escape are added behind the ones that are there, none twice. Tags are given as
assignments `key=value`. -/

namespace Tablewright

/-- What a command line says about the options. -/
structure Overlay where
  tags : List (String × String)
  enableInt : Bool
  enableIntegerInt : Bool
  enableBoolInt : Bool
  disableNullToPoint : Bool
  enableForeignKey : Bool
  ignoreOmitempty : Bool
  disableCommentTag : Bool
  escapeName : List String
  deriving DecidableEq, Inhabited

namespace Overlay

/-- Set or drop a tag. -/
def setTag (tags : Dict String) (tag : String × String) : Dict String :=
  if tag.2 = "" then tags.erase tag.1 else tags.insert tag.1 tag.2

/-- Add a name unless it is there. -/
def addName (names : List String) (name : String) : List String :=
  if names.contains name then names else names ++ [name]

/-- Lay an overlay over options. -/
def apply (a : Overlay) (base : Options) : Options :=
  { base with
    enableInt := base.enableInt || a.enableInt
    enableIntegerInt := base.enableIntegerInt || a.enableIntegerInt
    enableBoolInt := base.enableBoolInt || a.enableBoolInt
    disableNullToPoint := base.disableNullToPoint || a.disableNullToPoint
    enableForeignKey := base.enableForeignKey || a.enableForeignKey
    ignoreOmitempty := base.ignoreOmitempty || a.ignoreOmitempty
    disableCommentTag := base.disableCommentTag || a.disableCommentTag
    tags := a.tags.foldl setTag base.tags
    escapeName := a.escapeName.foldl addName base.escapeName }

/-- The overlay that says what one overlay says and then another. -/
def append (a b : Overlay) : Overlay where
  tags := a.tags ++ b.tags
  enableInt := a.enableInt || b.enableInt
  enableIntegerInt := a.enableIntegerInt || b.enableIntegerInt
  enableBoolInt := a.enableBoolInt || b.enableBoolInt
  disableNullToPoint := a.disableNullToPoint || b.disableNullToPoint
  enableForeignKey := a.enableForeignKey || b.enableForeignKey
  ignoreOmitempty := a.ignoreOmitempty || b.ignoreOmitempty
  disableCommentTag := a.disableCommentTag || b.disableCommentTag
  escapeName := a.escapeName ++ b.escapeName

instance : Append Overlay := ⟨append⟩

end Overlay

/-! ## Assignments -/

/-- Why a text is no assignment. -/
inductive AssignmentError where
  | noEquals (text : String)
  | emptyKey (text : String)
  deriving DecidableEq, Inhabited

/-- The wording of the refusal. -/
def AssignmentError.message : AssignmentError → String
  | noEquals text => "invalid KEY=VALUE: no `=` found in `" ++ text ++ "`"
  | emptyKey text => "invalid KEY=VALUE: empty key in `" ++ text ++ "`"

/-- The key and the value of an assignment, cut at its first `=` and trimmed. -/
def readAssignment (text : String) : Except AssignmentError (String × String) :=
  let s := text.toList
  match s.dropWhile (· != '=') with
  | [] => .error (.noEquals text)
  | _ :: value =>
    let key := String.ofList (Text.trim (s.takeWhile (· != '=')))
    if key = "" then .error (.emptyKey text)
    else .ok (key, String.ofList (Text.trim value))

end Tablewright
