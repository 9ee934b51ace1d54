import Tablewright.Artifact.Backend
import Tablewright.Dialect.Registry
import Tablewright.Entity.Build
import Tablewright.Job.Intake
import Tablewright.Job.Selection

/-! # Jobs

A job takes in documents, builds their selected tables in a dialect and writes them through a
backend. This module holds what a job is and how its schema comes about; the first thing that is
wrong decides: the dialect, the documents, the patterns, the column types. -/

namespace Tablewright

/-- How entities are grouped into files. -/
inductive Layout where
  /-- One file for each entity, named after its table. -/
  | perEntity
  /-- All entities in one file of this name. -/
  | merged (name : String)
  deriving DecidableEq, Inhabited

/-- Where the tables of a job come from. -/
structure Source where
  inputs : List String
  dialect : String
  selection : Selection
  sort : Bool
  deriving DecidableEq, Inhabited

/-- A job. -/
structure Job where
  command : String
  source : Source
  options : Options
  backend : Artifact.Backend
  out : String
  layout : Layout
  keepGoing : Bool
  deriving DecidableEq, Inhabited

/-- Why a job fails. -/
inductive JobError where
  | dialect (cause : Dialect.RegistryError)
  | noUsableInput (count : Nat)
  | pattern (cause : Pattern.InvalidPattern)
  | build (cause : BuildError)
  | emit (cause : Artifact.EmitError)
  /-- A file cannot be written; it was to hold one entity, or all of them. -/
  | write (owner : Option String) (fault : FileFault)
  deriving DecidableEq, Inhabited

/-- The wording of a failure. -/
def JobError.message : JobError → String
  | dialect cause => cause.message
  | noUsableInput count =>
    "No usable input: all " ++ toString count ++ " file(s) failed to load"
  | pattern cause => "Invalid exclude pattern: " ++ cause.message
  | build cause => cause.message
  | emit cause => cause.message
  | write (some owner) fault => owner ++ ": " ++ fault.message
  | write none fault => fault.message

/-- A schema and what was skipped on the way to it. -/
structure Loaded where
  schema : Schema
  skipped : List (String × IntakeError)
  deriving DecidableEq, Inhabited

/-- The schema of the tables that are taken in, selected and built with some options. -/
def Source.load [Pattern.Library] (s : Source) (read : String → Except FileFault String)
    (r : Dialect.Registry) (o : Options) : Except JobError Loaded := do
  let m ← (r.get s.dialect).mapError .dialect
  let i ← (Intake.ofPaths read s.inputs).mapError .noUsableInput
  let d ← (s.selection.apply i.database).mapError .pattern
  let schema ← (Schema.build m o d).mapError .build
  return ⟨if s.sort then schema.sorted else schema, i.skipped⟩

end Tablewright
