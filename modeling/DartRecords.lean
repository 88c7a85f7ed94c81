import DartRecords.CommandLine.Arguments
import DartRecords.CommandLine.Command
import DartRecords.CommandLine.Console
import DartRecords.CommandLine.Option
import DartRecords.CommandLine.Output
import DartRecords.CommandLine.Render
import DartRecords.CommandLine.Word
import DartRecords.Config.Basic
import DartRecords.Config.Store
import DartRecords.Config.Validation
import DartRecords.Dart.Enum
import DartRecords.Dart.Error
import DartRecords.Dart.Expression
import DartRecords.Dart.Flavor
import DartRecords.Dart.Literal
import DartRecords.Dart.Name
import DartRecords.Dart.Reserved
import DartRecords.Dart.Session
import DartRecords.Dart.SourceFile
import DartRecords.Dart.Spelling
import DartRecords.Dart.Struct
import DartRecords.Dart.Template
import DartRecords.Dart.Warning
import DartRecords.FileSystem.Basic
import DartRecords.FileSystem.Document
import DartRecords.Generation.Backend
import DartRecords.Generation.Basic
import DartRecords.Json.Basic
import DartRecords.Json.Depth
import DartRecords.Json.Display
import DartRecords.Json.Equality
import DartRecords.Json.Limit
import DartRecords.Json.Parser
import DartRecords.Json.Printer
import DartRecords.Json.Table
import DartRecords.Layout.Basic
import DartRecords.Layout.Cleanup
import DartRecords.Layout.Indent
import DartRecords.Layout.Marker
import DartRecords.Loading.Basic
import DartRecords.Limits
import DartRecords.Log.Entry
import DartRecords.Log.Logger
import DartRecords.Log.Stamp
import DartRecords.Main
import DartRecords.Naming.Sanitizer
import DartRecords.Naming.Style
import DartRecords.Naming.Words
import DartRecords.Number.Binary64
import DartRecords.Number.Shortest
import DartRecords.Number.Whole
import DartRecords.Path.Basic
import DartRecords.Path.Relative
import DartRecords.Proofs.CleanUp
import DartRecords.Proofs.ConstantText
import DartRecords.Proofs.FileSystem
import DartRecords.Proofs.Lines
import DartRecords.Proofs.Returns
import DartRecords.Proofs.Templates
import DartRecords.Registry.Basic
import DartRecords.Registry.Create
import DartRecords.Schema.Error
import DartRecords.Schema.Reader
import DartRecords.Schema.Record
import DartRecords.Schema.Type
import DartRecords.Schema.Warning
import DartRecords.Text.Alphanumeric
import DartRecords.Text.Blank
import DartRecords.Text.Case
import DartRecords.Text.CaseTable
import DartRecords.Text.Digit
import DartRecords.Text.Hex
import DartRecords.Text.Printable
import DartRecords.Text.Quoted
import DartRecords.Text.Ranges
import DartRecords.Text.Search
import DartRecords.Text.Utf8
import DartRecords.Url.Basic
import DartRecords.Url.Host
import DartRecords.Proofs.Writing
import DartRecords.Proofs.AllOrNothing
import DartRecords.Proofs.Memory
import DartRecords.Proofs.LayoutRuns
import DartRecords.Proofs.Words
import DartRecords.Proofs.ModulePaths
import DartRecords.Proofs.WellFormed
import DartRecords.Proofs.Emission
import DartRecords.Proofs.Balance
import DartRecords.Proofs.ClassNames
import DartRecords.Proofs.Imports
import DartRecords.Proofs.Blanks
import DartRecords.Proofs.Alignment
import DartRecords.Proofs.Spellings
import DartRecords.Proofs.Subtyping
import DartRecords.Proofs.Resolution
import DartRecords.Proofs.ImportPaths
import DartRecords.Proofs.FrozenConversion
import DartRecords.Proofs.Lookups
import DartRecords.Proofs.References
import DartRecords.Proofs.CaseStyles
import DartRecords.Proofs.EnumMembers
import DartRecords.Proofs.TypeNames
import DartRecords.Proofs.ClassIdentity
import DartRecords.Proofs.Independence
import DartRecords.Proofs.Registrations
import DartRecords.Proofs.LanguageNames
import DartRecords.Proofs.OddTypes
import DartRecords.Proofs.OddDocuments
import DartRecords.Proofs.Outcomes
import DartRecords.Proofs.ClassCode
import DartRecords.Proofs.MemberReferences
import DartRecords.Proofs.Rows
import DartRecords.Proofs.StandingLines
import DartRecords.Proofs.Relayout
import DartRecords.Proofs.JoinedRows
import DartRecords.Proofs.IndentUnits
import DartRecords.Proofs.OpenBrackets
import DartRecords.Proofs.HuggedBraces
import DartRecords.Proofs.Comments
import DartRecords.Proofs.LineEndings
import DartRecords.Proofs.Flavors
import DartRecords.Proofs.Serializers
import DartRecords.Proofs.CaseRoundTrips
import DartRecords.Proofs.DistinctNames
import DartRecords.Proofs.SpellerCalls
import DartRecords.Proofs.StringLiterals
import DartRecords.Proofs.QuotedTexts
import DartRecords.Proofs.SanitizerCache
import DartRecords.Proofs.DefaultValues
import DartRecords.Proofs.SavedSettings
import DartRecords.Proofs.SkippedConversions
import DartRecords.Proofs.LogHandlers
import DartRecords.Proofs.DecodedTexts
import DartRecords.Proofs.ReaderFuel
import DartRecords.Proofs.ReaderLimits
import DartRecords.Proofs.LoadFailures
