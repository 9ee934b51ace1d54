import Tablewright.Job.Basic
import Tablewright.Summary.Basic

/-! # Writing the files of a job

`Job.steps` says what is to be done for a schema, before any file is touched: files to write,
entities to pass over, and the refusal that ends the job. `perform` does it with a given way of
writing a file and tells the summary. -/

namespace Tablewright

/-- One step of a job. -/
inductive Step where
  /-- Write a text into a file, which belongs to one entity or to all of them. -/
  | write (file : WrittenFile) (text : String) (owner : Option String)
  /-- Pass over an entity that cannot be written. -/
  | pass (e : FailedEntity)
  /-- End with a refusal. -/
  | stop (cause : Artifact.EmitError)
  deriving DecidableEq, Inhabited

namespace Job

/-- The step that writes all entities into one file. -/
def mergedStep (j : Job) (name : String) (es : List Entity) : Step :=
  match j.backend.emit es with
  | .ok text =>
    .write ⟨Path.withSuffix j.out name j.backend.suffix, es.map Entity.name⟩ text none
  | .error cause => .stop cause

/-- The step that writes one entity into a file of its own. -/
def entityStep (j : Job) (e : Entity) : Step :=
  match j.backend.emit [e] with
  | .ok text =>
    .write ⟨Path.withSuffix j.out e.name j.backend.suffix, [e.name]⟩ text (some e.name)
  -- only files of their own can be passed over
  | .error cause => if j.keepGoing then .pass ⟨e.name, cause.message⟩ else .stop cause

/-- The steps for some entities. -/
def steps (j : Job) (es : List Entity) : List Step :=
  match j.layout with
  | .merged name => [j.mergedStep name es]
  | .perEntity => es.map j.entityStep

end Job

/-- A way of writing a text to a path. -/
abbrev Writer (m : Type → Type) := String → String → m (Except FileFault Unit)

/-- Do the steps one after the other, up to the first that fails. -/
def perform {m : Type → Type} [Monad m] (write : Writer m) (done : Summary) :
    List Step → m (Except JobError Summary)
  | [] => return .ok done
  | .pass e :: steps => perform write (done.addFailed e) steps
  | .stop cause :: _ => return .error (.emit cause)
  | .write file text owner :: steps => do
    match ← write file.path text with
    | .ok () => perform write (done.addFile file) steps
    -- what has been written stays
    | .error fault => return .error (.write owner fault)

/-- Do a job; the words for a faulty document are given. -/
def Job.run [Pattern.Library] {m : Type → Type} [Monad m] (j : Job)
    (read : String → Except FileFault String) (write : Writer m) (describe : Json.Fault → String) :
    m (Except JobError Summary) :=
  match j.source.load read .builtin j.options with
  | .error e => return .error e
  | .ok loaded =>
    let skipped := loaded.skipped.map fun (path, cause) => ⟨path, cause.message describe path⟩
    perform write (.start j.command skipped) (j.steps loaded.schema.entities)

end Tablewright
