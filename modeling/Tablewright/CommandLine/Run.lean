import Tablewright.CommandLine.Command
import Tablewright.Config.File
import Tablewright.Job.Writing

/-! # Running a command line

An invocation and the configuration make a job: what the command line says goes before what is
configured, which goes before what is usual. `run` reads words, finds the configuration, does the
job and renders its summary. -/

namespace Tablewright.CommandLine

open Artifact

/-- Why a run fails. -/
inductive RunError where
  | usage (cause : UsageError)
  | config (cause : ConfigError)
  | unknownCommand (word : String)
  | unknownStyle (name : String)
  | job (cause : JobError)
  deriving DecidableEq, Inhabited

/-- The wording of a misuse. -/
def UsageError.message : UsageError → String
  | missingRequired switch => "the argument --" ++ switch ++ " is required"
  | unknownArgument word => "unexpected argument " ++ word
  | invalidValue switch value => "invalid value '" ++ value ++ "' for --" ++ switch
  | rejectedValue switch reason => "invalid value for --" ++ switch ++ ": " ++ reason
  | conflict switch => "the argument --" ++ switch ++ " cannot be used more than once"
  | tooManyValues switch => "the argument --" ++ switch ++ " takes no value"
  | missingCommand => "a command is required"
  | unknownCommand word => "unrecognized command " ++ word
  | help | helpForNothing => "usage: ormat <model|proto|sql|rapier> -i FILE... [switches]"
  | version => Header.standard.byName ++ " " ++ Header.standard.version

/-- The wording of a failure; the words for a faulty document are given. -/
def RunError.message (describe : Json.Fault → String) : RunError → String
  | usage cause => cause.message
  | config cause => cause.message describe
  | unknownCommand word => "Unknown command: " ++ word
  | unknownStyle name => "Unknown naming style: " ++ name
  | job cause => cause.message

/-- The directories and file names that are used when none is said. -/
def usualOut : String → String
  | "model" => "./model"
  | "proto" => "./mapper"
  | "sql" => "./migration"
  | _ => "./repository"

/-- The header that the switches ask for. -/
def SourceArguments.header (a : SourceArguments) : Header :=
  if a.disableDocComment then .none else .standard

/-- The output directory: asked for, or configured, or usual. -/
def SourceArguments.outOr (a : SourceArguments) (configured : Option String) (command : String) :
    String :=
  (a.out.or configured).getD (usualOut command)

/-- The layout: one file if that is asked for or configured, named the same way. -/
def MergeArguments.layout (m : MergeArguments) (merge : Bool) (filename : Option String)
    (usual : String) : Layout :=
  if m.merge || merge then .merged ((m.filename.or filename).getD usual) else .perEntity

/-- The job of a command under some options. -/
def SourceArguments.job (a : SourceArguments) (command : String) (options : Options)
    (backend : Backend) (out : String) (layout : Layout) : Job :=
  ⟨command, a.source, options, backend, out, layout, a.keepGoing⟩

/-- The style of names that is asked for or configured; there need not be one. -/
def styleOf (name : Option String) : Except RunError (Option Naming.Style) :=
  match name with
  | none => .ok none
  | some name =>
    match Naming.Style.ofName? name with
    | some style => .ok (some style)
    | none => .error (.unknownStyle name)

/-- The job that a command stands for. Table scripts always hold the foreign keys. -/
def Command.job (config : Config) : Command → Except RunError Job
  | .model a package m =>
    let out := a.outOr config.model.out "model"
    let package := Path.packageOr package config.model.package out
    .ok <| a.job "model" (a.overlay.apply config.options) (.model ⟨package, a.header⟩) out
      (m.layout config.model.merge config.model.filename "model")
  | .proto a package options style disableBool disableTimestamp => do
    let out := a.outOr config.proto.out "proto"
    let style ← styleOf (style.or config.proto.style)
    let file : ProtoFile :=
      { package := Path.packageOr package config.proto.package out
        options := config.proto.options.insertAll options
        style := style
        disableBool := disableBool || config.proto.disableBool
        disableTimestamp := disableTimestamp || config.proto.disableTimestamp
        header := a.header }
    return a.job "proto" (a.overlay.apply config.options) (.proto file) out .perEntity
  | .sql a m =>
    -- foreign keys are part of a script, whatever the options say
    let options := { a.overlay.apply config.options with enableForeignKey := true }
    .ok <| a.job "sql" options (.sql ⟨a.header⟩) (a.outOr config.sql.out "sql")
      (m.layout config.sql.merge config.sql.filename "create_table")
  | .rapier a package modelImportPath =>
    let out := a.outOr config.rapier.out "rapier"
    let package := Path.packageOr package config.rapier.package out
    let importPath := (modelImportPath.or config.rapier.modelImportPath).getD ""
    .ok <| a.job "rapier" (a.overlay.apply config.options)
      (.rapier ⟨package, importPath, a.header⟩) out .perEntity
  | .unknown word => .error (.unknownCommand word)

/-- The files that a run may read: the configuration and the documents. -/
def Invocation.paths (i : Invocation) : List String :=
  i.config.getD Config.standardPath ::
    match i.command with
    | .model a .. | .proto a .. | .sql a .. | .rapier a .. => a.source.inputs
    | .unknown _ => []

/-- The job of an invocation. The configuration is read even if there is no job. -/
def Invocation.job (i : Invocation) (read : String → Except FileFault String) :
    Except RunError Job := do
  let config ← (Config.load read i.config).mapError .config
  i.command.job config

/-- Run an invocation; the words for a faulty document are given. -/
def Invocation.run [Pattern.Library] {m : Type → Type} [Monad m] (i : Invocation)
    (read : String → Except FileFault String) (write : Writer m)
    (describe : Json.Fault → String) : m (Except RunError String) := do
  match i.job read with
  | .error e => return .error e
  | .ok job =>
    -- from here on files are written
    match ← job.run read write describe with
    | .error e => return .error (.job e)
    | .ok summary => return .ok (summary.render i.form)

end Tablewright.CommandLine
