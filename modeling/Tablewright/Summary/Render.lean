import Tablewright.Json.Printer
import Tablewright.Summary.Basic
import Tablewright.Summary.Toon

/-! # Writing summaries

The three forms of a summary: lines for a reader, a JSON document, and the toon format. What was
skipped and what failed is told only if there is any. -/

namespace Tablewright

/-- A form of summaries. -/
inductive SummaryForm where
  | table
  | json
  | toon
  deriving DecidableEq, Inhabited

/-- The form behind a name. -/
def SummaryForm.ofName? (name : String) : Option SummaryForm :=
  [("table", table), ("json", json), ("toon", toon)].lookup name

namespace Summary

/-! ## Lines for a reader -/

/-- A block that is left out when it has no lines: an empty line, a heading with the number of
lines, and the lines. -/
def block (heading : String) (lines : List String) : List String :=
  if lines.isEmpty then []
  else "" :: (heading ++ " (" ++ toString lines.length ++ "):") :: lines

/-- The lines about the files. -/
def fileLines (s : Summary) : List String :=
  if s.files.isEmpty then ["  No files generated."]
  else
    ("  Files: " ++ toString s.files.length ++ "  Entities: " ++ toString s.entityCount) :: "" ::
      s.files.map fun f => "  " ++ f.path ++ " (" ++ String.intercalate ", " f.entities ++ ")"

/-- The summary as lines. -/
def toTable (s : Summary) : String :=
  String.intercalate "\n" <|
    ("Generate (" ++ s.command ++ "):") :: s.fileLines ++
      block "Skipped inputs" (s.skipped.map fun i => "  " ++ i.path ++ ": " ++ i.error) ++
      block "Failed entities" (s.failed.map fun e => "  " ++ e.entity ++ ": " ++ e.error)

/-! ## A JSON document -/

/-- A member that is left out when its list is empty. -/
def optionalMember (key : String) (items : List Json) : List (String × Json) :=
  if items.isEmpty then [] else [(key, .list items)]

/-- The summary as a JSON document. -/
def toJson (s : Summary) : Json :=
  let file (f : WrittenFile) := Json.record
    [("path", .ofText f.path), ("entities", .list (f.entities.map .ofText))]
  let input (i : SkippedInput) := Json.record
    [("path", .ofText i.path), ("error", .ofText i.error)]
  let entity (e : FailedEntity) := Json.record
    [("entity", .ofText e.entity), ("error", .ofText e.error)]
  .record <|
    ("command", .ofText s.command) :: ("files", .list (s.files.map file)) ::
      optionalMember "skipped_inputs" (s.skipped.map input) ++
      optionalMember "failed_entities" (s.failed.map entity)

/-! ## The toon format -/

/-- Records in the toon format, left out when there are none. -/
def toonRecords (key : String) (keys : List String) (records : List (List String)) : List String :=
  if records.isEmpty then [] else Toon.recordLines key keys records

/-- The files in the toon format: an item of two lines for each. -/
def toonFiles (s : Summary) : List String :=
  ("files[" ++ toString s.files.length ++ "]:") ::
    s.files.flatMap fun f =>
      ["  - " ++ Toon.listLine "entities" f.entities, "    " ++ Toon.textLine "path" f.path]

/-- The summary in the toon format, its keys in alphabetical order. -/
def toToon (s : Summary) : String :=
  String.intercalate "\n" <|
    Toon.textLine "command" s.command ::
      toonRecords "failed_entities" ["entity", "error"]
        (s.failed.map fun e => [e.entity, e.error]) ++
      s.toonFiles ++
      toonRecords "skipped_inputs" ["error", "path"] (s.skipped.map fun i => [i.error, i.path])

/-- The summary in some form. -/
def render (s : Summary) : SummaryForm → String
  | .table => s.toTable
  | .json => s.toJson.pretty
  | .toon => s.toToon

end Summary

end Tablewright
