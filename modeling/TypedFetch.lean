import TypedFetch.CommandLine.Arguments
import TypedFetch.CommandLine.Request
import TypedFetch.CommandLine.Run
import TypedFetch.CommandLine.Setting
import TypedFetch.Console.Markup
import TypedFetch.Console.Page
import TypedFetch.Console.Pictograph
import TypedFetch.Console.PictographName
import TypedFetch.Console.Style
import TypedFetch.Console.Table
import TypedFetch.Files.Path
import TypedFetch.Files.Tree
import TypedFetch.Http.ApiError
import TypedFetch.Http.Binding
import TypedFetch.Http.Credentials
import TypedFetch.Http.Exchange
import TypedFetch.Http.PathTemplate
import TypedFetch.Http.Query
import TypedFetch.Http.Token
import TypedFetch.Json.Reader
import TypedFetch.Json.Writer
import TypedFetch.Main
import TypedFetch.Naming
import TypedFetch.Number.Double
import TypedFetch.Package.Manifest
import TypedFetch.Package.Readme
import TypedFetch.Project.Config
import TypedFetch.Project.Generate
import TypedFetch.Project.Options
import TypedFetch.Proto.Bundled
import TypedFetch.Proto.Comment
import TypedFetch.Proto.Compile
import TypedFetch.Proto.Declaration
import TypedFetch.Proto.Descriptor
import TypedFetch.Proto.Extract
import TypedFetch.Proto.Import
import TypedFetch.Proto.JsonForm
import TypedFetch.Proto.Link
import TypedFetch.Proto.Load
import TypedFetch.Proto.OptionFault
import TypedFetch.Proto.OptionMapping
import TypedFetch.Proto.OptionValue
import TypedFetch.Proto.Outline
import TypedFetch.Proto.Parser
import TypedFetch.Proto.Pool
import TypedFetch.Proto.Registry
import TypedFetch.Proto.Rules
import TypedFetch.Proto.Source.Imports
import TypedFetch.Proto.Source.Options
import TypedFetch.Proto.Staging
import TypedFetch.Proto.Token
import TypedFetch.Proto.WellKnown
import TypedFetch.Proto.Wire
import TypedFetch.Report
import TypedFetch.Schema.Basic
import TypedFetch.Schema.Decode
import TypedFetch.Schema.DependencyOrder
import TypedFetch.Text.Base64
import TypedFetch.Text.Blank
import TypedFetch.Text.CellWidth
import TypedFetch.Text.Digit
import TypedFetch.Text.Letter
import TypedFetch.Text.LetterCase
import TypedFetch.Text.Lines
import TypedFetch.Text.Printable
import TypedFetch.Text.Search
import TypedFetch.Text.Stream
import TypedFetch.Text.Utf8
import TypedFetch.Text.Wrap
import TypedFetch.Time.Calendar
import TypedFetch.Time.Parser
import TypedFetch.TypeScript.Client
import TypedFetch.TypeScript.Declaration
import TypedFetch.TypeScript.Literal
import TypedFetch.TypeScript.TypeMapping
import TypedFetch.TypeScript.Types
import TypedFetch.Validation
import TypedFetch.Value
import TypedFetch.Yaml.Graph
import TypedFetch.Yaml.Kind
import TypedFetch.Yaml.Node
import TypedFetch.Yaml.Reader
import TypedFetch.Yaml.Scalar
import TypedFetch.Yaml.Source
import TypedFetch.Yaml.Token
import TypedFetch.Proofs.Client.Flattening
import TypedFetch.Proofs.Staging.ImportNames
import TypedFetch.Proofs.Staging.Runs
import TypedFetch.Proofs.Staging.Closure
import TypedFetch.Proofs.TypeScript.Syntax
import TypedFetch.Proofs.Schema.DependencyOrder
import TypedFetch.Proofs.TypeScript.TypesSyntax
import TypedFetch.Proofs.TypeScript.ClientSyntax
import TypedFetch.Proofs.TypeScript.References
import TypedFetch.Proofs.Http.PathTemplate
import TypedFetch.Proofs.Script.Scanner
import TypedFetch.Proofs.Script.Program
import TypedFetch.Proofs.Client.MethodBody
import TypedFetch.Proofs.Client.Wire
import TypedFetch.Proofs.Text.Cut
import TypedFetch.Proofs.Files.Confinement
import TypedFetch.Proofs.Files.Operations
import TypedFetch.Proofs.Staging.Provenance
import TypedFetch.Proofs.Staging.Confinement
import TypedFetch.Proofs.TypeScript.Exports
import TypedFetch.Proofs.TypeScript.DistinctNames
import TypedFetch.Proofs.Extraction.Listing
import TypedFetch.Proofs.Extraction.Reference
import TypedFetch.Proofs.TypeScript.TypeReferences
import TypedFetch.Proofs.Attempts
import TypedFetch.Proofs.Http.QueryLeaves
import TypedFetch.Proofs.Extraction.Completeness
import TypedFetch.Proofs.Http.ErrorResponses
import TypedFetch.Proofs.Files.Kinds
import TypedFetch.Proofs.Staging.Opened
import TypedFetch.Proofs.Loading.Isolation
import TypedFetch.Proofs.Http.OptionShapes
import TypedFetch.Proofs.TypeScript.FixedCode
import TypedFetch.Proofs.TypeScript.Generics
import TypedFetch.Proofs.Package.ReadmeCalls
import TypedFetch.Proofs.Files.Writing
import TypedFetch.Proofs.Console.Markup
import TypedFetch.Proofs.Project.Generation
import TypedFetch.Proofs.Schema.FirstDeclaration
import TypedFetch.Proofs.Project.OptionMerging
import TypedFetch.Proofs.Source.OptionRemoval
import TypedFetch.Proofs.TypeScript.Spans
import TypedFetch.Proofs.Client.Scope
import TypedFetch.Proofs.TypeScript.Setters
import TypedFetch.Proofs.TypeScript.Members
import TypedFetch.Proofs.Source.Deletion
import TypedFetch.Proofs.Source.CommentedOptions
import TypedFetch.Proofs.TypeScript.Comments
import TypedFetch.Proofs.Script.StringValue
import TypedFetch.Proofs.Http.PathParameters
import TypedFetch.Proofs.Source.ImportRemoval
import TypedFetch.Proofs.Source.CommentedImports
import TypedFetch.Proofs.Source.SparedText
import TypedFetch.Proofs.Http.TokenPayload
import TypedFetch.Proofs.Extraction.Descriptions
import TypedFetch.Proofs.Http.TokenTimes
import TypedFetch.Proofs.Project.ConfigLoading
import TypedFetch.Proofs.Schema.Stability
import TypedFetch.Proofs.Source.Pieces
import TypedFetch.Proofs.TypeScript.FieldNames
