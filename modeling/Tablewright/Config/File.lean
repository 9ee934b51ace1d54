import Tablewright.Config
import Tablewright.Files.Fault

/-! # Configuration files

The configuration stands in a file that the command line names, which must exist then, or else in a
file of the working directory, which need not. -/

namespace Tablewright

/-- Why there is no configuration. -/
inductive ConfigError where
  | missing (path : String)
  | unread (path : String) (fault : FileFault)
  | misunderstood (path : String) (fault : Json.Fault)
  deriving DecidableEq, Inhabited

/-- The wording of a cause; the words for a faulty document are given. -/
def ConfigError.message (describe : Json.Fault → String) : ConfigError → String
  | missing path => "Configuration file not found: " ++ path
  | unread path fault => "Failed to read " ++ path ++ ": " ++ fault.message
  | misunderstood path fault => "Invalid JSON in " ++ path ++ ": " ++ describe fault

namespace Config

/-- The path of the file in the working directory. -/
def standardPath : String :=
  "./.ormat.json"

/-- The configuration in the named file, or in the one of the working directory. -/
def load (read : String → Except FileFault String) (named : Option String) :
    Except ConfigError Config :=
  let path := named.getD standardPath
  match read path with
  | .ok text => (Config.ofText text).mapError (.misunderstood path)
  | .error fault =>
    if !fault.saysAbsent then .error (.unread path fault)
    else match named with
      | some path => .error (.missing path)
      | none => .ok .standard

end Config

end Tablewright
