import Tablewright.CommandLine.Switch
import Tablewright.Overlay
import Tablewright.Summary.Render
import Tablewright.Job.Basic

/-! # Commands

The commands of the program with their switches, and how words become an `Invocation`. Switches that
every command knows may stand before the command or behind it; the later one counts. -/

namespace Tablewright.CommandLine

/-! ## Switches -/

/-- Any text fits. -/
def anyText (_ : String) : Option Misfit :=
  none

/-- A path that is not empty fits. -/
def somePath (value : String) : Option Misfit :=
  if value = "" then some .invalid else none

/-- The name of a summary form fits. -/
def formName (value : String) : Option Misfit :=
  if (SummaryForm.ofName? value).isNone then some .invalid else none

/-- An assignment `key=value` fits. -/
def assignment (value : String) : Option Misfit :=
  match readAssignment value with
  | .ok _ => none
  | .error e => some (.rejected e.message)

/-- A flag. -/
def flag (name : String) : Switch :=
  ⟨name, none, .flag, anyText⟩

/-- The switch that asks for help. -/
def helpSwitch : Switch :=
  ⟨"help", some 'h', .help, anyText⟩

/-- The switches that may stand before a command or behind it. -/
def sharedSwitches : List Switch :=
  [⟨"format", some 'f', .one, formName⟩, ⟨"log-level", none, .one, anyText⟩,
    ⟨"config", some 'c', .one, somePath⟩, helpSwitch]

/-- The switches before a command. -/
def topSwitches : List Switch :=
  ⟨"version", some 'V', .version, anyText⟩ :: sharedSwitches

/-- The switches that say where tables come from and where files go. -/
def sourceSwitches : List Switch :=
  [⟨"input", some 'i', .many, somePath⟩, ⟨"dialect", some 's', .one, anyText⟩,
    ⟨"table", some 't', .each, anyText⟩, ⟨"exclude", none, .each, anyText⟩,
    ⟨"out", some 'o', .one, somePath⟩, flag "sort", flag "keep-going", flag "disable-doc-comment"]

/-- The switches that change options. -/
def optionSwitches : List Switch :=
  [⟨"tags", some 'K', .each, assignment⟩, flag "enable-int", flag "enable-integer-int",
    flag "enable-bool-int", flag "disable-null-to-point", flag "enable-foreign-key",
    flag "ignore-omitempty", flag "disable-comment-tag", ⟨"escape-name", none, .each, anyText⟩]

/-- The switch that names a package. -/
def packageSwitch : Switch :=
  ⟨"package", some 'p', .one, anyText⟩

/-- The switches for one file with all entities. -/
def mergeSwitches : List Switch :=
  [flag "merge", ⟨"filename", none, .one, anyText⟩]

/-- The commands by name, each with the switches that it alone has. -/
def commandSwitches : List (String × List Switch) :=
  [("model", packageSwitch :: mergeSwitches),
    ("proto", [packageSwitch, ⟨"options", none, .each, assignment⟩,
      ⟨"style", none, .one, anyText⟩, flag "disable-bool", flag "disable-timestamp"]),
    ("sql", mergeSwitches),
    ("rapier", [packageSwitch, ⟨"model-import-path", none, .one, anyText⟩])]

/-! ## Invocations -/

/-- What the switches about tables and files say. -/
structure SourceArguments where
  source : Source
  out : Option String
  keepGoing : Bool
  disableDocComment : Bool
  overlay : Overlay
  deriving DecidableEq, Inhabited

/-- What the switches about one file for all entities say. -/
structure MergeArguments where
  merge : Bool
  filename : Option String
  deriving DecidableEq, Inhabited

/-- A command with what its switches say. -/
inductive Command where
  | model (a : SourceArguments) (package : Option String) (m : MergeArguments)
  | proto (a : SourceArguments) (package : Option String) (options : List (String × String))
      (style : Option String) (disableBool disableTimestamp : Bool)
  | sql (a : SourceArguments) (m : MergeArguments)
  | rapier (a : SourceArguments) (package modelImportPath : Option String)
  /-- A word that names no command. -/
  | unknown (word : String)
  deriving DecidableEq, Inhabited

/-- A command line that can be run. -/
structure Invocation where
  form : SummaryForm
  config : Option String
  command : Command
  deriving DecidableEq, Inhabited

/-- The assignments among the values of a switch. -/
def assignments (g : Given) (name : String) : List (String × String) :=
  (g.all name).filterMap fun value => (readAssignment value).toOption

/-- The overlay that the switches describe. -/
def overlay (g : Given) : Overlay where
  tags := assignments g "tags"
  enableInt := g.has "enable-int"
  enableIntegerInt := g.has "enable-integer-int"
  enableBoolInt := g.has "enable-bool-int"
  disableNullToPoint := g.has "disable-null-to-point"
  enableForeignKey := g.has "enable-foreign-key"
  ignoreOmitempty := g.has "ignore-omitempty"
  disableCommentTag := g.has "disable-comment-tag"
  escapeName := g.all "escape-name"

/-- What the switches about tables and files say. -/
def sourceArguments (g : Given) : SourceArguments where
  source := ⟨g.all "input", (g.one? "dialect").getD "mysql", ⟨g.all "table", g.all "exclude"⟩,
    g.has "sort"⟩
  out := g.one? "out"
  keepGoing := g.has "keep-going"
  disableDocComment := g.has "disable-doc-comment"
  overlay := overlay g

/-- What the switches about one file for all entities say. -/
def mergeArguments (g : Given) : MergeArguments :=
  ⟨g.has "merge", g.one? "filename"⟩

/-- The command of this name with what its switches say. -/
def commandOf (name : String) (g : Given) : Command :=
  let a := sourceArguments g
  match name with
  | "model" => .model a (g.one? "package") (mergeArguments g)
  | "proto" => .proto a (g.one? "package") (assignments g "options") (g.one? "style")
      (g.has "disable-bool") (g.has "disable-timestamp")
  | "sql" => .sql a (mergeArguments g)
  | "rapier" => .rapier a (g.one? "package") (g.one? "model-import-path")
  | word => .unknown word

/-- The invocation of a command; what stands behind the command goes before what stands in front. -/
def invocation (top behind : Given) (command : Command) : Invocation where
  form := (((behind.one? "format").or (top.one? "format")).bind SummaryForm.ofName?).getD .table
  config := (behind.one? "config").or (top.one? "config")
  command := command

/-! ## Reading -/

/-- Read what stands behind a command that is known. -/
def readCommand (own : List Switch) (words : List String) : Except UsageError Given := do
  let switches := sharedSwitches ++ sourceSwitches ++ optionSwitches ++ own
  let (s, rest) ← scan switches .start words
  if let some r := rest then throw (.unknownArgument r.word)
  let s ← s.settle
  if s.given.has "input" then return s.given else throw (.missingRequired "input")

/-- What the words behind `help` ask for: at most one command may follow. -/
def readHelp (words : List String) : UsageError :=
  match words with
  | [] => .help
  | [word] =>
    if word = "help" ∨ (commandSwitches.lookup word).isSome then .help else .unknownCommand word
  | first :: second :: _ =>
    if first = "help" ∨ (commandSwitches.lookup first).isSome then .unknownCommand second
    else .unknownCommand first

/-- Read a command line. A word that names no command is taken for one that is not known, and what
follows it is not looked at. Mistakes behind a command are told before a last one in front of it. -/
def readWords (words : List String) : Except UsageError Invocation := do
  let (s, rest) ← scan topSwitches .start words
  match rest with
  | none =>
    let s ← s.settle
    if s.given.isEmpty then throw .helpForNothing else throw .missingCommand
  | some r =>
    if r.mayCommand && r.word = "help" then throw (readHelp r.behind)
    match if r.mayCommand then commandSwitches.lookup r.word else none with
    | none =>
      return invocation (← s.settle).given [] (.unknown r.word)
    | some own =>
      let g ← readCommand own r.behind
      return invocation (← s.settle).given g (commandOf r.word g)

end Tablewright.CommandLine
