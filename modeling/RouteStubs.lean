import RouteStubs.Accessor
import RouteStubs.Failure
import RouteStubs.FileSize
import RouteStubs.FileSystem.Basic
import RouteStubs.FileSystem.Population
import RouteStubs.Handler.Basic
import RouteStubs.Handler.Classify
import RouteStubs.Handler.Fixture
import RouteStubs.Handler.RouteVariables
import RouteStubs.Inputs.Collect
import RouteStubs.Inputs.Expansion
import RouteStubs.Inputs.IgnorePattern
import RouteStubs.Inputs.IgnoreRules
import RouteStubs.Inputs.Walk
import RouteStubs.Inputs.Wildcard
import RouteStubs.Log.Event
import RouteStubs.Log.Filter
import RouteStubs.Log.Traced
import RouteStubs.Main
import RouteStubs.Path.Basic
import RouteStubs.Path.Companion
import RouteStubs.Proofs.Handler.Comments
import RouteStubs.Proofs.Handler.Fixtures
import RouteStubs.Proofs.Handler.Gist
import RouteStubs.Proofs.Handler.Locality
import RouteStubs.Proofs.Handler.NestedScopes
import RouteStubs.Proofs.Syntax.Bodies
import RouteStubs.Proofs.Syntax.Forks
import RouteStubs.Proofs.Syntax.Operands
import RouteStubs.Proofs.Syntax.Outermost
import RouteStubs.Proofs.Syntax.Positions
import RouteStubs.Proofs.Syntax.Quoting
import RouteStubs.Proofs.Syntax.Reads
import RouteStubs.Proofs.Syntax.Signatures
import RouteStubs.Proofs.Syntax.Yields
import RouteStubs.Proofs.Text.Utf8
import RouteStubs.Report.Record
import RouteStubs.Report.Summary
import RouteStubs.Run.Attempt
import RouteStubs.Run.Generator
import RouteStubs.Run.Options
import RouteStubs.Run.Session
import RouteStubs.Syntax.Declarations
import RouteStubs.Syntax.Expressions
import RouteStubs.Syntax.Fault
import RouteStubs.Syntax.File
import RouteStubs.Syntax.Kind
import RouteStubs.Syntax.Node
import RouteStubs.Syntax.Phrase
import RouteStubs.Syntax.Reading
import RouteStubs.Syntax.SourceFile
import RouteStubs.Syntax.Statements
import RouteStubs.Syntax.StringLiteral
import RouteStubs.Syntax.Token
import RouteStubs.Syntax.Types
import RouteStubs.Template.Basic
import RouteStubs.Template.Chunk
import RouteStubs.Template.Parser
import RouteStubs.Template.Render
import RouteStubs.Template.Sink
import RouteStubs.Template.Stub
import RouteStubs.Text.Basic
import RouteStubs.Text.CodeRanges
import RouteStubs.Text.Identifier
import RouteStubs.Text.Letter
import RouteStubs.Text.Numeral
import RouteStubs.Text.Space
import RouteStubs.Text.Uppercase
import RouteStubs.Text.Utf8
import RouteStubs.Text.Visible
import RouteStubs.Proofs.Template.Chunks
import RouteStubs.Proofs.Template.Parts
import RouteStubs.Proofs.Template.RoundTrip
import RouteStubs.Proofs.FileSystem.LinkFree
import RouteStubs.Proofs.Run.Turns
import RouteStubs.Proofs.Run.Effects
import RouteStubs.Proofs.Run.Collisions
import RouteStubs.Proofs.Run.DryRun
import RouteStubs.Proofs.Text.Lines
import RouteStubs.Proofs.Template.StubLines
import RouteStubs.Proofs.Report.Json
import RouteStubs.Proofs.Template.SourcePath
import RouteStubs.Proofs.Run.RecordStream
import RouteStubs.Proofs.FileSystem.CompanionFiles
import RouteStubs.Proofs.FileSystem.Rewriting
import RouteStubs.Proofs.Inputs.Walks
import RouteStubs.Proofs.Run.Regeneration
import RouteStubs.Proofs.Handler.LastBinding
import RouteStubs.Proofs.Handler.VarGroups
import RouteStubs.Proofs.Run.Totals
import RouteStubs.Proofs.Handler.Stores
import RouteStubs.Proofs.Syntax.ClosingQuotes
import RouteStubs.Proofs.Text.Boundaries
import RouteStubs.Proofs.Template.ListLiterals
import RouteStubs.Proofs.Syntax.Symbols
import RouteStubs.Proofs.Template.Sinks
import RouteStubs.Proofs.FileSystem.Placement
import RouteStubs.Proofs.Path.Order
import RouteStubs.Proofs.Inputs.Surveys
import RouteStubs.Proofs.Inputs.Composition
import RouteStubs.Proofs.Inputs.ListingOrder
import RouteStubs.Proofs.Text.Spaces
import RouteStubs.Proofs.Text.Numerals
import RouteStubs.Proofs.Settings.FileSizes
import RouteStubs.Proofs.Settings.Accessors
import RouteStubs.Proofs.Syntax.PlainCharacters
import RouteStubs.Proofs.Inputs.Repeats
import RouteStubs.Proofs.Text.Offsets
import RouteStubs.Proofs.Syntax.InPlace
import RouteStubs.Proofs.Template.Tags
import RouteStubs.Proofs.Template.Rejections
