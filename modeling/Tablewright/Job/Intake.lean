import Tablewright.Files.Fault
import Tablewright.Table.Document

/-! # Taking in documents

The tables of a job come from one or more documents. A document that cannot be read or understood is
skipped and remembered with its cause; only when all of them are is there nothing to work on. -/

namespace Tablewright

/-- Why a document is skipped. -/
inductive IntakeError where
  | unread (fault : FileFault)
  | misunderstood (fault : Json.Fault)
  deriving DecidableEq, Inhabited

/-- The wording of a cause; the words for a faulty document are given. -/
def IntakeError.message (describe : Json.Fault → String) (path : String) : IntakeError → String
  | unread fault => "Failed to read " ++ path ++ ": " ++ fault.message
  | misunderstood fault => "Failed to parse " ++ path ++ ": " ++ describe fault

/-- What was taken in: all tables, and the skipped paths with their causes. -/
structure Intake where
  database : Database
  skipped : List (String × IntakeError)
  deriving DecidableEq, Inhabited

namespace Intake

/-- Nothing taken in. -/
def empty : Intake :=
  ⟨⟨"", []⟩, []⟩

/-- The document at a path. -/
def document (read : String → Except FileFault String) (path : String) :
    Except IntakeError Database := do
  let text ← (read path).mapError .unread
  (Database.ofText text).mapError .misunderstood

/-- Put the tables of a database behind those that are there. The first name that is not empty
counts. -/
def add (i : Intake) (d : Database) : Intake :=
  { i with database :=
    ⟨if i.database.name = "" then d.name else i.database.name, i.database.tables ++ d.tables⟩ }

/-- Remember a path that is skipped. -/
def skip (i : Intake) (path : String) (cause : IntakeError) : Intake :=
  { i with skipped := i.skipped ++ [(path, cause)] }

/-- Take in the document at a path. -/
def take (read : String → Except FileFault String) (i : Intake) (path : String) : Intake :=
  match document read path with
  | .ok d => i.add d
  | .error cause => i.skip path cause

/-- Take in the documents at some paths, or say how many were skipped if that is all of them. -/
def ofPaths (read : String → Except FileFault String) (paths : List String) : Except Nat Intake :=
  let i := paths.foldl (take read) empty
  -- no paths at all are nothing to complain about
  if paths ≠ [] ∧ i.skipped.length = paths.length then .error paths.length else .ok i

end Intake

end Tablewright
