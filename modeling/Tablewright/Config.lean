import Tablewright.Options

/-! # Configuration

A configuration holds the options and, for each kind of artifact, what the command line may leave
out. Every field of it may be left out too. -/

namespace Tablewright

open Json (Format Shape Presence slot?)

/-- What is configured for models. -/
structure ModelConfig where
  out : Option String
  package : Option String
  merge : Bool
  filename : Option String
  deriving DecidableEq, Inhabited

/-- What is configured for protobuf messages. -/
structure ProtoConfig where
  out : Option String
  package : Option String
  options : Dict String
  style : Option String
  disableBool : Bool
  disableTimestamp : Bool
  deriving DecidableEq, Inhabited

/-- What is configured for table definitions. -/
structure SqlConfig where
  out : Option String
  merge : Bool
  filename : Option String
  deriving DecidableEq, Inhabited

/-- What is configured for query-layer accessors. -/
structure RapierConfig where
  out : Option String
  package : Option String
  modelImportPath : Option String
  deriving DecidableEq, Inhabited

/-- A configuration. -/
structure Config where
  options : Options
  model : ModelConfig
  proto : ProtoConfig
  sql : SqlConfig
  rapier : RapierConfig
  deriving DecidableEq, Inhabited

/-- The configuration that says nothing. -/
def Config.standard : Config where
  options := .standard
  model := ⟨none, none, false, none⟩
  proto := ⟨none, none, .empty, none, false, false⟩
  sql := ⟨none, false, none⟩
  rapier := ⟨none, none, none⟩

/-! ## Format -/

/-- The fields of the model section. -/
def ModelConfig.fields : List (String × Presence × Shape) :=
  [("out", .nullable, .text), ("package", .nullable, .text), ("merge", .defaulted, .flag),
   ("filename", .nullable, .text)]

/-- Model sections. -/
def ModelConfig.format : Format ModelConfig where
  shape := .record ModelConfig.fields
  decode j :=
    let slot := slot? ModelConfig.fields j
    { out := Format.text.optionalAt (slot "out")
      package := Format.text.optionalAt (slot "package")
      merge := Format.flag.at (slot "merge") false
      filename := Format.text.optionalAt (slot "filename") }
  encode c := Json.record
    [("out", Format.text.encodeOptional c.out),
     ("package", Format.text.encodeOptional c.package),
     ("merge", .bool c.merge),
     ("filename", Format.text.encodeOptional c.filename)]

/-- The fields of the protobuf section. -/
def ProtoConfig.fields : List (String × Presence × Shape) :=
  [("out", .nullable, .text), ("package", .nullable, .text), ("options", .defaulted, .dict .text),
   ("style", .nullable, .text), ("disableBool", .defaulted, .flag),
   ("disableTimestamp", .defaulted, .flag)]

/-- Protobuf sections. -/
def ProtoConfig.format : Format ProtoConfig where
  shape := .record ProtoConfig.fields
  decode j :=
    let slot := slot? ProtoConfig.fields j
    { out := Format.text.optionalAt (slot "out")
      package := Format.text.optionalAt (slot "package")
      options := (Format.dict .text).at (slot "options") .empty
      style := Format.text.optionalAt (slot "style")
      disableBool := Format.flag.at (slot "disableBool") false
      disableTimestamp := Format.flag.at (slot "disableTimestamp") false }
  encode c := Json.record
    [("out", Format.text.encodeOptional c.out),
     ("package", Format.text.encodeOptional c.package),
     ("options", (Format.dict .text).encode c.options),
     ("style", Format.text.encodeOptional c.style),
     ("disableBool", .bool c.disableBool),
     ("disableTimestamp", .bool c.disableTimestamp)]

/-- The fields of the table definition section. -/
def SqlConfig.fields : List (String × Presence × Shape) :=
  [("out", .nullable, .text), ("merge", .defaulted, .flag), ("filename", .nullable, .text)]

/-- Table definition sections. -/
def SqlConfig.format : Format SqlConfig where
  shape := .record SqlConfig.fields
  decode j :=
    let slot := slot? SqlConfig.fields j
    { out := Format.text.optionalAt (slot "out")
      merge := Format.flag.at (slot "merge") false
      filename := Format.text.optionalAt (slot "filename") }
  encode c := Json.record
    [("out", Format.text.encodeOptional c.out),
     ("merge", .bool c.merge),
     ("filename", Format.text.encodeOptional c.filename)]

/-- The fields of the query-layer section. -/
def RapierConfig.fields : List (String × Presence × Shape) :=
  [("out", .nullable, .text), ("package", .nullable, .text), ("modelImportPath", .nullable, .text)]

/-- Query-layer sections. -/
def RapierConfig.format : Format RapierConfig where
  shape := .record RapierConfig.fields
  decode j :=
    let slot := slot? RapierConfig.fields j
    { out := Format.text.optionalAt (slot "out")
      package := Format.text.optionalAt (slot "package")
      modelImportPath := Format.text.optionalAt (slot "modelImportPath") }
  encode c := Json.record
    [("out", Format.text.encodeOptional c.out),
     ("package", Format.text.encodeOptional c.package),
     ("modelImportPath", Format.text.encodeOptional c.modelImportPath)]

/-- The fields of a configuration. -/
def Config.fields : List (String × Presence × Shape) :=
  [("options", .defaulted, Options.format.shape),
   ("model", .defaulted, ModelConfig.format.shape),
   ("proto", .defaulted, ProtoConfig.format.shape),
   ("sql", .defaulted, SqlConfig.format.shape),
   ("rapier", .defaulted, RapierConfig.format.shape)]

/-- Configurations. -/
def Config.format : Format Config where
  shape := .record Config.fields
  decode j :=
    let slot := slot? Config.fields j
    { options := Options.format.at (slot "options") Config.standard.options
      model := ModelConfig.format.at (slot "model") Config.standard.model
      proto := ProtoConfig.format.at (slot "proto") Config.standard.proto
      sql := SqlConfig.format.at (slot "sql") Config.standard.sql
      rapier := RapierConfig.format.at (slot "rapier") Config.standard.rapier }
  encode c := Json.record
    [("options", Options.format.encode c.options),
     ("model", ModelConfig.format.encode c.model),
     ("proto", ProtoConfig.format.encode c.proto),
     ("sql", SqlConfig.format.encode c.sql),
     ("rapier", RapierConfig.format.encode c.rapier)]

/-- The configuration that a text stands for. -/
def Config.ofText (text : String) : Except Json.Fault Config :=
  Config.format.read text

end Tablewright
