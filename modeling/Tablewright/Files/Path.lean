import Tablewright.Text.Blank

/-! # Paths

Slash-separated paths as texts: joining, the last component, the directory above, and the package
name that a directory or an import path stands for. -/

namespace Tablewright.Path

/-- The components of a path. Empty ones and `.` stand for no step and are left out. -/
def components (path : String) : List String :=
  ((Text.pieces (· == '/') path.toList).map String.ofList).filter fun c => c != "" && c != "."

/-- Does the path start at the root? -/
def isAbsolute (path : String) : Bool :=
  path.toList.head? == some '/'

/-- Does the path stand for a directory by its form? It does when it ends in a slash or in `.`. -/
def asksDirectory (path : String) : Bool :=
  match (Text.pieces (· == '/') path.toList).getLast? with
  | some last => last == [] || last == ['.']
  | none => false

/-- The directory that the last component of a path stands in. -/
def parent (path : String) : String :=
  let above := String.intercalate "/" (components path).dropLast
  if isAbsolute path then "/" ++ above else above

/-- The path `rest` as seen from the directory `dir`. -/
def join (dir rest : String) : String :=
  if isAbsolute rest then rest
  else if dir = "" ∨ dir.toList.getLast? = some '/' then dir ++ rest
  else dir ++ "/" ++ rest

/-- The last component of a path, unless that is a step upwards. -/
def fileName? (path : String) : Option String :=
  match (components path).getLast? with
  | some name => if name = ".." then none else some name
  | none => none

/-- The package that a directory or an import path stands for: its last component with `_` for
every `-`, or `model` if it has none. -/
def packageName (path : String) : String :=
  match fileName? path with
  | some name => String.ofList (name.toList.map fun c => if c = '-' then '_' else c)
  | none => "model"

/-- The package to write: the one that is asked for, else the configured one, else the one that the
output directory stands for. -/
def packageOr (asked configured : Option String) (out : String) : String :=
  (asked.or configured).getD (packageName out)

/-- The file `name` with a suffix in the directory `dir`. Blanks around the suffix are dropped, and
a suffix that has no leading dot gets one, unless it is empty. -/
def withSuffix (dir name suffix : String) : String :=
  let trimmed := Text.onChars Text.trim suffix
  let dotted :=
    if trimmed = "" ∨ trimmed.toList.head? = some '.' then trimmed else "." ++ trimmed
  join dir (name ++ dotted)

end Tablewright.Path
