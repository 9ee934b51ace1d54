import Tablewright.Artifact.Accessors
import Tablewright.Artifact.GoModel
import Tablewright.Artifact.Message
import Tablewright.Artifact.TableScript

/-! # Backends

The four kinds of artifact under one type: what is written for some entities, and the suffix of the
file that holds it. -/

namespace Tablewright.Artifact

/-- A kind of artifact and how it is written. -/
inductive Backend where
  | model (m : GoModel)
  | proto (p : ProtoFile)
  | sql (s : TableScript)
  | rapier (a : Accessors)
  deriving DecidableEq, Inhabited

/-- The text for some entities, or the refusal of the first one that cannot be written. -/
def Backend.emit : Backend → List Entity → Except EmitError String
  | model m, es => m.emit es
  | proto p, es => p.emit es
  | sql s, es => s.emit es
  | rapier a, es => a.emit es

/-- The suffix of the files of a backend. -/
def Backend.suffix : Backend → String
  | model _ => ".go"
  | proto _ => ".proto"
  | sql _ => ".sql"
  | rapier _ => ".rapier.gen.go"

end Tablewright.Artifact
