/-! # Summaries

What a job tells about itself: the files it wrote, the documents it skipped and the entities that it
could not write. -/

namespace Tablewright

/-- A file and the entities in it. -/
structure WrittenFile where
  path : String
  entities : List String
  deriving DecidableEq, Inhabited

/-- A document that was skipped, and why. -/
structure SkippedInput where
  path : String
  error : String
  deriving DecidableEq, Inhabited

/-- An entity that could not be written, and why. -/
structure FailedEntity where
  entity : String
  error : String
  deriving DecidableEq, Inhabited

/-- The summary of a job. -/
structure Summary where
  command : String
  files : List WrittenFile
  skipped : List SkippedInput
  failed : List FailedEntity
  deriving DecidableEq, Inhabited

namespace Summary

/-- The summary before any file is written. -/
def start (command : String) (skipped : List SkippedInput) : Summary :=
  ⟨command, [], skipped, []⟩

/-- Tell about one more file. -/
def addFile (s : Summary) (f : WrittenFile) : Summary :=
  { s with files := s.files ++ [f] }

/-- Tell about one more entity that could not be written. -/
def addFailed (s : Summary) (f : FailedEntity) : Summary :=
  { s with failed := s.failed ++ [f] }

/-- How many entities were written, counted once for each file that holds them. -/
def entityCount (s : Summary) : Nat :=
  s.files.foldl (fun n f => n + f.entities.length) 0

end Summary

end Tablewright
