import Tablewright.Naming.Style
import Tablewright.Naming.Identifier
import Tablewright.Text.Line
import Tablewright.Text.Quoted
import Tablewright.Text.Hexadecimal
import Tablewright.Files.Path
import Tablewright.Files.Tree
import Tablewright.Comment.Directive
import Tablewright.Pattern.Reader
import Tablewright.Json.Format
import Tablewright.Json.Printer
import Tablewright.Column.GoType
import Tablewright.Dialect.Registry
import Tablewright.Dialect.PatternRules
import Tablewright.Table.Document
import Tablewright.Table.GormTag
import Tablewright.Options
import Tablewright.Overlay
import Tablewright.Config.File
import Tablewright.Entity.Build
import Tablewright.Artifact.Backend
import Tablewright.Summary.Render
import Tablewright.Job.Writing
import Tablewright.CommandLine.Tree
import Tablewright.Main
import Tablewright.Proofs.Lists
import Tablewright.Proofs.Dict
import Tablewright.Proofs.Json.Printing
import Tablewright.Proofs.Json.Fitting
import Tablewright.Proofs.Json.Record
import Tablewright.Proofs.Json.Keeping
import Tablewright.Proofs.Json.Faithful
import Tablewright.Proofs.Document.Fields
import Tablewright.Proofs.Document.Rephrasing
import Tablewright.Proofs.Text.Lines
import Tablewright.Proofs.Text.Quoted
import Tablewright.Proofs.Text.GoLiteral
import Tablewright.Proofs.Table.DefinitionLines
import Tablewright.Proofs.Table.KeyStructure
import Tablewright.Proofs.Table.TagSegments
import Tablewright.Proofs.Table.TagKeys
import Tablewright.Proofs.Entity.FieldNames
import Tablewright.Proofs.Entity.Transform
import Tablewright.Proofs.Entity.Build
import Tablewright.Proofs.Entity.Runs
import Tablewright.Proofs.Artifact.TableScript
import Tablewright.Proofs.Artifact.Parts
import Tablewright.Proofs.Job.Source
import Tablewright.Proofs.Job.Options
import Tablewright.Proofs.Job.TableScripts
import Tablewright.Proofs.CommandLine.TableScripts
import Tablewright.Proofs.Job.HiddenOptions
import Tablewright.Proofs.Artifact.Acceptance
import Tablewright.Proofs.Artifact.GoIdentifiers
import Tablewright.Proofs.Artifact.Merging
import Tablewright.Proofs.Artifact.Imports
import Tablewright.Proofs.Artifact.MessageSource
import Tablewright.Proofs.Artifact.MessageFile
import Tablewright.Proofs.Artifact.MessageNames
import Tablewright.Proofs.Artifact.GoSource
import Tablewright.Proofs.Artifact.AccessorFile
import Tablewright.Proofs.Artifact.AccessorNames
import Tablewright.Proofs.Artifact.NameLiterals
import Tablewright.Proofs.Pattern.Reading
import Tablewright.Proofs.Pattern.Search
import Tablewright.Proofs.Pattern.Bounds
import Tablewright.Proofs.Pattern.Weight
import Tablewright.Proofs.Dialect.Beginning
import Tablewright.Proofs.Dialect.Spelling
import Tablewright.Proofs.Dialect.RuleTable
import Tablewright.Proofs.Dialect.BuiltinPatterns
import Tablewright.Proofs.Files.Path
import Tablewright.Proofs.Files.Tree
import Tablewright.Proofs.Job.Writing
import Tablewright.Proofs.Job.Artifacts
import Tablewright.Proofs.Job.Failure
import Tablewright.Proofs.CommandLine.Failure
import Tablewright.Proofs.Overlay
import Tablewright.Proofs.Table.Literals
import Tablewright.Proofs.Table.TagEnd
import Tablewright.Proofs.Text.Words
import Tablewright.Proofs.Comment.Directive
import Tablewright.Proofs.Comment.Strip
import Tablewright.Proofs.Entity.TypePriority
import Tablewright.Proofs.Entity.RuledTypes
import Tablewright.Proofs.Dialect.IntegerTypes
import Tablewright.Proofs.Dialect.Attributes
import Tablewright.Proofs.Comment.Extraction
import Tablewright.Proofs.Naming.SameWords
import Tablewright.Proofs.Naming.Characters
import Tablewright.Proofs.Artifact.StructLines
import Tablewright.Proofs.Entity.Outcome
import Tablewright.Proofs.Job.Intake
import Tablewright.Proofs.Pattern.Whole
import Tablewright.Proofs.Job.Selection
import Tablewright.Proofs.Text.ByteOrder
import Tablewright.Proofs.Job.Order
import Tablewright.Proofs.Job.Accounting
import Tablewright.Proofs.Dialect.Registrations
import Tablewright.Proofs.Files.Footprint
import Tablewright.Proofs.Job.OutputDirectory
import Tablewright.Proofs.Unicode.Class
import Tablewright.Proofs.Naming.Identifier
import Tablewright.Proofs.Naming.Ascii
import Tablewright.Proofs.Artifact.ModelNames
import Tablewright.Proofs.Entity.TagForm
import Tablewright.Proofs.Text.Infix
import Tablewright.Proofs.Table.TagAttributes
import Tablewright.Proofs.Column.TypeFormers
import Tablewright.Proofs.Entity.TypeOrigin
import Tablewright.Proofs.CommandLine.PackageNames
