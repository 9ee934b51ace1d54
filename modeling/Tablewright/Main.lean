import Tablewright.CommandLine.Run
import Tablewright.Pattern.Engine

/-! # The program

Reads the files that a command line names, runs it, and prints its summary or what went wrong. -/

namespace Tablewright.CommandLine

/-- The fault behind an error of the system. -/
def faultOfError : IO.Error → FileFault
  | .noFileOrDirectory .. => .missing
  | .alreadyExists .. => .present
  | .inappropriateType _ code details =>
    if code = 20 then .notDirectory else if code = 21 then .isDirectory else .other details
  | e => .other (toString e)

/-- The result of an action, its errors as faults. -/
def guarded {α : Type} (action : IO α) : IO (Except FileFault α) := do
  match ← action.toBaseIO with
  | .ok a => return .ok a
  | .error e => return .error (faultOfError e)

/-- Read a text file. -/
def readText (path : String) : IO (Except FileFault String) := do
  match ← guarded (IO.FS.readBinFile path) with
  | .error e => return .error e
  | .ok bytes =>
    match String.fromUTF8? bytes with
    | some text => return .ok text
    | none => return .error .notText

/-- Write a text file and make the directories on the way to it. -/
def writeText : Writer IO := fun path text => do
  let above := Path.parent path
  match ← guarded (if above = "" then pure () else IO.FS.createDirAll above) with
  | .error e => return .error e
  | .ok () => guarded (IO.FS.writeFile path text)

/-- The words for a faulty document. -/
def describeFault : Json.Fault → String
  | .truncated => "the document ends too early"
  | .malformed => "the document is no JSON"
  | .mistyped => "the document does not have the form that is asked for"

/-- Say what went wrong. -/
def complain (e : RunError) : IO UInt32 := do
  match e with
  | .usage .help | .usage .version => IO.println (e.message describeFault); return 0
  | .usage _ => IO.eprintln (e.message describeFault); return 2
  | _ => IO.eprintln ("Error: " ++ e.message describeFault); return 1

end Tablewright.CommandLine

open Tablewright.CommandLine in
/-- Run the words of a command line. -/
def main (words : List String) : IO UInt32 := do
  match readWords words with
  | .error e => complain (.usage e)
  | .ok i =>
    let texts ← i.paths.mapM fun path => return (path, ← readText path)
    let read (path : String) := (texts.lookup path).getD (.error .missing)
    match ← i.run read writeText describeFault with
    | .error e => complain e
    | .ok summary => IO.println summary; return 0
