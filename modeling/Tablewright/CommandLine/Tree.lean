import Tablewright.CommandLine.Run
import Tablewright.Files.Tree
import Tablewright.Pattern.Engine

/-! # Runs in a file tree

A run of the whole program as a function: from a file tree and words to what is printed or goes
wrong, and the tree afterwards. -/

namespace Tablewright.CommandLine

/-- Write into a tree that is carried along. -/
def treeWriter : Writer (StateM FileTree) :=
  fun path text t => t.write path text

/-- Run words in a file tree; the words for a faulty document are given. -/
def runInTree [Pattern.Library] (t : FileTree) (words : List String) (describe : Json.Fault → String) :
    Except RunError String × FileTree :=
  match readWords words with
  | .error e => (.error (.usage e), t)
  | .ok i => (i.run t.read treeWriter describe).run t

end Tablewright.CommandLine
