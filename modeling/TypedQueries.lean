import TypedQueries.Command.Arguments
import TypedQueries.Command.Run
import TypedQueries.Compilation
import TypedQueries.CompileError
import TypedQueries.Config.Document
import TypedQueries.Config.Line
import TypedQueries.Config.Load
import TypedQueries.Fallible
import TypedQueries.Files.Path
import TypedQueries.Files.Temporary
import TypedQueries.Files.Tree
import TypedQueries.Generation.Driver
import TypedQueries.Generation.Package
import TypedQueries.Generation.Params
import TypedQueries.Generation.Query
import TypedQueries.Generation.RowType
import TypedQueries.Inspection.Json
import TypedQueries.Inspection.View
import TypedQueries.Lexical.Cursor
import TypedQueries.Lexical.Keyword
import TypedQueries.Lexical.Lexer
import TypedQueries.Lexical.SyntaxError
import TypedQueries.Lexical.Token
import TypedQueries.Main
import TypedQueries.Project.Compile
import TypedQueries.Project.Inspect
import TypedQueries.Project.Log
import TypedQueries.Project.Write
import TypedQueries.ProjectError
import TypedQueries.Proofs.AcceptedStatements
import TypedQueries.Proofs.AddedQueries
import TypedQueries.Proofs.AlignedRows
import TypedQueries.Proofs.BareColumns
import TypedQueries.Proofs.BoundArguments
import TypedQueries.Proofs.CaseForms
import TypedQueries.Proofs.CaseTables
import TypedQueries.Proofs.CharTables
import TypedQueries.Proofs.ClauseReadings
import TypedQueries.Proofs.ClauseSegments
import TypedQueries.Proofs.ColumnIndices
import TypedQueries.Proofs.ColumnSpelling
import TypedQueries.Proofs.Cursors
import TypedQueries.Proofs.DeclarationOrder
import TypedQueries.Proofs.DeclaredNames
import TypedQueries.Proofs.DensePositions
import TypedQueries.Proofs.ErrorPlaces
import TypedQueries.Proofs.FailedRuns
import TypedQueries.Proofs.FaithfulRendering
import TypedQueries.Proofs.FieldNames
import TypedQueries.Proofs.FieldTags
import TypedQueries.Proofs.FollowedPaths
import TypedQueries.Proofs.Imports
import TypedQueries.Proofs.InsertGrammar
import TypedQueries.Proofs.InsertLanguage
import TypedQueries.Proofs.InsertTuples
import TypedQueries.Proofs.InspectedProjects
import TypedQueries.Proofs.JoinedFiles
import TypedQueries.Proofs.KnownTypes
import TypedQueries.Proofs.Lexemes
import TypedQueries.Proofs.Lexing
import TypedQueries.Proofs.ListedFiles
import TypedQueries.Proofs.NestedPaths
import TypedQueries.Proofs.OutputPaths
import TypedQueries.Proofs.ParamFields
import TypedQueries.Proofs.ParamNames
import TypedQueries.Proofs.ParamTypes
import TypedQueries.Proofs.PlaceholderPositions
import TypedQueries.Proofs.PrintedCode
import TypedQueries.Proofs.Provenance
import TypedQueries.Proofs.Qualifiers
import TypedQueries.Proofs.QuoteMarks
import TypedQueries.Proofs.QuotedColumn
import TypedQueries.Proofs.RegistryIndex
import TypedQueries.Proofs.Renumbering
import TypedQueries.Proofs.Requirements
import TypedQueries.Proofs.Rereading
import TypedQueries.Proofs.Respacing
import TypedQueries.Proofs.RoundTrip
import TypedQueries.Proofs.ScanTargets
import TypedQueries.Proofs.SchemaColumns
import TypedQueries.Proofs.SchemaGrammar
import TypedQueries.Proofs.SchemaLanguage
import TypedQueries.Proofs.SchemaRoundTrip
import TypedQueries.Proofs.SnakeCase
import TypedQueries.Proofs.SnakeLoop
import TypedQueries.Proofs.StatementEnds
import TypedQueries.Proofs.StatementTokens
import TypedQueries.Proofs.StringLiterals
import TypedQueries.Proofs.TagSections
import TypedQueries.Proofs.TokenParts
import TypedQueries.Proofs.TokenSpans
import TypedQueries.Proofs.Trivia
import TypedQueries.Proofs.Unplaced
import TypedQueries.Proofs.UnplacedSchema
import TypedQueries.Proofs.WhereLoop
import TypedQueries.Proofs.WrittenNames
import TypedQueries.Query.Block
import TypedQueries.Query.Parser
import TypedQueries.Query.Positions
import TypedQueries.Query.Printer
import TypedQueries.Query.Statement
import TypedQueries.Registry
import TypedQueries.Schema.Clock
import TypedQueries.Schema.Item
import TypedQueries.Schema.Parser
import TypedQueries.Target.Aligned
import TypedQueries.Target.Code
import TypedQueries.Target.Declaration
import TypedQueries.Target.Naming
import TypedQueries.Target.Type
import TypedQueries.Text.Alphabetic
import TypedQueries.Text.Alphanumeric
import TypedQueries.Text.Bytes
import TypedQueries.Text.CaseIgnorable
import TypedQueries.Text.CaseMapping
import TypedQueries.Text.Cased
import TypedQueries.Text.CharSet
import TypedQueries.Text.Escaped
import TypedQueries.Text.Extending
import TypedQueries.Text.LowerForm
import TypedQueries.Text.Lowercase
import TypedQueries.Text.Unprintable
import TypedQueries.Text.UpperForm
import TypedQueries.Text.Uppercase
