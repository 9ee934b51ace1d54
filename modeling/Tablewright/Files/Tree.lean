import Tablewright.Files.Fault
import Tablewright.Files.Path

/-! # File trees

A tree of directories and text files with a working directory, without links. Paths lead through it
component by component; `read` and `write` say what stands at the end of one and put text there, and
`changes` compares two trees. -/

namespace Tablewright

/-- What stands at a place. -/
inductive Node where
  | directory
  | file (text : String)
  deriving DecidableEq, Inhabited

/-- A place in a tree: the names on the way to it, the last one first. The root is `[]`. -/
abbrev Place := List String

/-- A tree of files. -/
structure FileTree where
  workingDirectory : Place
  nodes : List (Place × Node)
  deriving DecidableEq, Inhabited

namespace FileTree

/-- What stands at a place. -/
def node? (t : FileTree) (p : Place) : Option Node :=
  match p with
  | [] => some .directory
  | p => t.nodes.lookup p

/-- Put a node at a place. -/
def put (t : FileTree) (p : Place) (n : Node) : FileTree :=
  { t with nodes := (p, n) :: t.nodes.filter fun entry => entry.1 != p }

/-- A place and the places above it, without the root. -/
def upwards : Place → List Place
  | [] => []
  | name :: above => (name :: above) :: upwards above

/-- A tree with nothing in it but an empty working directory. -/
def empty (workingDirectory : Place) : FileTree where
  workingDirectory := workingDirectory
  nodes := (upwards workingDirectory).map (·, .directory)

/-- What is put at a place is found there. -/
theorem node?_put_self (t : FileTree) (p : Place) (n : Node) (h : p ≠ []) :
    (t.put p n).node? p = some n := by
  cases p with
  | nil => exact absurd rfl h
  | cons a p => simp [node?, put]

/-! ## Walking -/

/-- Is a text longer than the system takes as the name of a file? -/
def isLongName (name : String) : Bool :=
  name.utf8ByteSize > 255

/-- Is a text longer than the system takes as a path? -/
def isLongPath (path : String) : Bool :=
  path.utf8ByteSize ≥ 4096

/-- Does a text hold a null character? -/
def holdsNull (path : String) : Bool :=
  path.toList.contains '\x00'

/-- Check that a directory stands at a place. -/
def checkDirectory (t : FileTree) (p : Place) : Except FileFault Unit :=
  match t.node? p with
  | some .directory => .ok ()
  | some (.file _) => .error .notDirectory
  | none => .error .missing

/-- The place that a name leads to from a directory, whether or not anything stands there. -/
def step (t : FileTree) (here : Place) (name : String) : Except FileFault Place := do
  t.checkDirectory here
  if name = ".." then return here.tail
  if isLongName name then throw .nameTooLong
  return name :: here

/-- The place where a path starts. -/
def start (t : FileTree) (path : String) : Place :=
  if Path.isAbsolute path then [] else t.workingDirectory

/-- The place at the end of a path, whether or not anything stands there. -/
def find (t : FileTree) (path : String) : Except FileFault Place :=
  if holdsNull path then .error .nullInName
  else if path = "" then .error .missing
  else if isLongPath path then .error .nameTooLong
  else (Path.components path).foldlM t.step (t.start path)

/-- Read the file at a path. -/
def read (t : FileTree) (path : String) : Except FileFault String := do
  let p ← t.find path
  match t.node? p with
  | none => throw .missing
  | some .directory => throw .isDirectory
  | some (.file text) =>
    if Path.asksDirectory path then throw .notDirectory else return text

/-! ## Writing -/

/-- Make one directory: where to start, the names on the way there, the last one first. The way must
be there, and the directory must not. -/
def makeOne (t : FileTree) (start : Place) (name : String) (above : List String) :
    Except FileFault FileTree := do
  let p ← t.step (← above.reverse.foldlM t.step start) name
  match t.node? p with
  | none => return t.put p .directory
  | some _ => throw .present

/-- Does a directory stand at the end of a way? The names are given with the last one first. -/
def leadsToDirectory (t : FileTree) (start : Place) (names : List String) : Bool :=
  match names.reverse.foldlM t.step start with
  | .ok p => t.node? p == some .directory
  | .error _ => false

/-- Make one directory unless it is there already. -/
def ensureOne (t : FileTree) (start : Place) (name : String) (above : List String) :
    Except FileFault FileTree :=
  match t.makeOne start name above with
  | .error .present =>
    if t.leadsToDirectory start (name :: above) then .ok t else .error .present
  | r => r

/-- Make a directory unless it is there, the names on the way being given with the last one first.
If the way is missing it is made first, so that a file on it is met as something that is there. A
failure comes with the tree that it leaves, as what is made of the way stays. -/
def makeAll (t : FileTree) (start : Place) : List String → Except (FileFault × FileTree) FileTree
  | [] => .ok t
  | name :: above =>
    match t.ensureOne start name above with
    | .error .missing => do
      -- the way is made, and then the directory is tried once more
      let t ← makeAll t start above
      (t.ensureOne start name above).mapError (·, t)
    | r => r.mapError (·, t)

/-- Make the directory at a path, and those on the way to it. A failure comes with the tree that it
leaves. -/
def makeDirectory (t : FileTree) (path : String) : Except (FileFault × FileTree) FileTree :=
  if holdsNull path then .error (.nullInName, t)
  else if isLongPath path then .error (.nameTooLong, t)
  else t.makeAll (t.start path) (Path.components path).reverse

/-- Put text into the file at a path, whose directory is there. -/
def overwrite (t : FileTree) (path text : String) : Except FileFault FileTree := do
  let p ← t.find path
  match t.node? p with
  | some .directory => throw .isDirectory
  -- there is a file already or nothing at all
  | _ => return t.put p (.file text)

/-- Put text into the file at a path and make the directories on the way to it, which stay if the
text cannot be put. -/
def write (t : FileTree) (path text : String) : Except FileFault Unit × FileTree :=
  match t.makeDirectory (Path.parent path) with
  | .error (e, t) => (.error e, t)
  | .ok t =>
    match t.overwrite path text with
    | .error e => (.error e, t)
    | .ok t => (.ok (), t)

/-! ## Comparing -/

/-- The text of the file at a place. -/
def text? (t : FileTree) (p : Place) : Option String :=
  match t.node? p with
  | some (.file text) => some text
  | _ => none

/-- The way from the working directory down to a place. -/
def below? (t : FileTree) (p : Place) : Option String :=
  let depth := p.length - t.workingDirectory.length
  if depth ≠ 0 ∧ p.drop depth = t.workingDirectory then
    some (String.intercalate "/" (p.take depth).reverse)
  else none

/-- The files below the working directory that are not as they are in `old`. -/
def changes (old t : FileTree) : List (String × String) :=
  t.nodes.filterMap fun (p, _) =>
    match t.text? p, t.below? p with
    | some text, some path => if old.text? p = some text then none else some (path, text)
    | _, _ => none

end FileTree

end Tablewright
