import Tablewright.Column.GoType
import Tablewright.Dict
import Tablewright.Json.Format

/-! # Options

The switches, tags and replacements that shape the generated fields, and the format of an options
block. A block may leave out any field; the `json` tag is asked for unless a block lists tags of its
own. -/

namespace Tablewright

open Json (Format Shape Presence slot?)

/-- How fields are generated. -/
structure Options where
  /-- Widen integers of 8, 16 and 32 bits. -/
  enableInt : Bool
  /-- Widen integers of 32 bits. -/
  enableIntegerInt : Bool
  /-- Give booleans an integer type. -/
  enableBoolInt : Bool
  /-- Give nullable columns a wrapper type instead of a pointer. -/
  disableNullToPoint : Bool
  /-- Keep the foreign keys. -/
  enableForeignKey : Bool
  /-- Leave `,omitempty` off the tags. -/
  ignoreOmitempty : Bool
  /-- Leave the comment out of the gorm tag. -/
  disableCommentTag : Bool
  /-- The naming style of every tag. -/
  tags : Dict String
  /-- Names that no field may have. -/
  escapeName : List String
  /-- Replacement types, by `table.column`. -/
  typeOverrides : Dict GoTypeOverride
  deriving DecidableEq

/-- The options of an empty block. -/
def Options.standard : Options where
  enableInt := false
  enableIntegerInt := false
  enableBoolInt := false
  disableNullToPoint := false
  enableForeignKey := false
  ignoreOmitempty := false
  disableCommentTag := false
  tags := .ofList [("json", "smallCamelCase")]
  escapeName := []
  typeOverrides := .empty

instance : Inhabited Options := ⟨.standard⟩

/-- The replacement type of a column, if there is one. -/
def Options.typeOverride? (o : Options) (table column : String) : Option GoTypeOverride :=
  o.typeOverrides.get? (table ++ "." ++ column)

/-! ## Format -/

/-- The fields of a replacement type. -/
def GoTypeOverride.fields : List (String × Presence × Shape) :=
  [("ident", .required, .text), ("pkgPath", .defaulted, .text)]

/-- Replacement types. -/
def GoTypeOverride.format : Format GoTypeOverride where
  shape := .record GoTypeOverride.fields
  decode j :=
    let slot := slot? GoTypeOverride.fields j
    { ident := Format.text.at (slot "ident") "", pkgPath := Format.text.at (slot "pkgPath") "" }
  encode o := Json.record [("ident", .ofText o.ident), ("pkgPath", .ofText o.pkgPath)]

/-- The fields of an options block. -/
def Options.fields : List (String × Presence × Shape) :=
  [("enableInt", .defaulted, .flag),
   ("enableIntegerInt", .defaulted, .flag),
   ("enableBoolInt", .defaulted, .flag),
   ("disableNullToPoint", .defaulted, .flag),
   ("enableForeignKey", .defaulted, .flag),
   ("ignoreOmitempty", .defaulted, .flag),
   ("disableCommentTag", .defaulted, .flag),
   ("tags", .defaulted, .dict .text),
   ("escapeName", .defaulted, .list .text),
   ("typeOverrides", .defaulted, .dict GoTypeOverride.format.shape)]

/-- Options blocks. -/
def Options.format : Format Options where
  shape := .record Options.fields
  decode j :=
    let slot := slot? Options.fields j
    { enableInt := Format.flag.at (slot "enableInt") false
      enableIntegerInt := Format.flag.at (slot "enableIntegerInt") false
      enableBoolInt := Format.flag.at (slot "enableBoolInt") false
      disableNullToPoint := Format.flag.at (slot "disableNullToPoint") false
      enableForeignKey := Format.flag.at (slot "enableForeignKey") false
      ignoreOmitempty := Format.flag.at (slot "ignoreOmitempty") false
      disableCommentTag := Format.flag.at (slot "disableCommentTag") false
      tags := (Format.dict .text).at (slot "tags") Options.standard.tags
      escapeName := (Format.list .text).at (slot "escapeName") []
      typeOverrides := (Format.dict GoTypeOverride.format).at (slot "typeOverrides") .empty }
  encode o := Json.record
    [("enableInt", .bool o.enableInt),
     ("enableIntegerInt", .bool o.enableIntegerInt),
     ("enableBoolInt", .bool o.enableBoolInt),
     ("disableNullToPoint", .bool o.disableNullToPoint),
     ("enableForeignKey", .bool o.enableForeignKey),
     ("ignoreOmitempty", .bool o.ignoreOmitempty),
     ("disableCommentTag", .bool o.disableCommentTag),
     ("tags", (Format.dict .text).encode o.tags),
     ("escapeName", (Format.list .text).encode o.escapeName),
     ("typeOverrides", (Format.dict GoTypeOverride.format).encode o.typeOverrides)]

end Tablewright
