import ApiForge.Text.Basic
import ApiForge.Text.Ranges
import ApiForge.Text.Blank
import ApiForge.Text.WordChar
import ApiForge.Text.Printable
import ApiForge.Text.LowerCase
import ApiForge.Text.Surrogate
import ApiForge.Text.Distinct
import ApiForge.Text.Quoted
import ApiForge.Text.Utf8
import ApiForge.Decimal.Binary64
import ApiForge.Decimal.Shortest
import ApiForge.Decimal.Spelling
import ApiForge.Decimal.Numeral
import ApiForge.Calendar
import ApiForge.Document.Value
import ApiForge.Document.Display
import ApiForge.Json.Fault
import ApiForge.Json.Reader
import ApiForge.Json.Writer
import ApiForge.Record.Fault
import ApiForge.Yaml.Fault
import ApiForge.Failure
import ApiForge.Naming.Identifier
import ApiForge.Naming.Unique
import ApiForge.Naming.Anchor
import ApiForge.Markdown.Cell
import ApiForge.TypeScript.Comment
import ApiForge.Model.Schema
import ApiForge.Model.Operation
import ApiForge.Model.Api
import ApiForge.Reference.Pointer
import ApiForge.Reference.Expand
import ApiForge.Document.Version
import ApiForge.Yaml.Cursor
import ApiForge.Yaml.Token
import ApiForge.Yaml.Property
import ApiForge.Yaml.Plain
import ApiForge.Yaml.Quoted
import ApiForge.Yaml.Block
import ApiForge.Yaml.Lexer
import ApiForge.Yaml.Resolve
import ApiForge.Yaml.Node
import ApiForge.Yaml.Base64
import ApiForge.Yaml.Number
import ApiForge.Yaml.Value
import ApiForge.Document.Parse
import ApiForge.Url.HostChar
import ApiForge.Url.Percent
import ApiForge.Url.Punycode
import ApiForge.Url.Address
import ApiForge.Url.Host
import ApiForge.Url.Basic
import ApiForge.Url.Join
import ApiForge.Url.Origin
import ApiForge.Discovery.Charset
import ApiForge.Discovery.Exchange
import ApiForge.Discovery.Fetch
import ApiForge.Discovery.Search
import ApiForge.Record.Checked
import ApiForge.Text.Keyed
import ApiForge.Document.Access
import ApiForge.Import.Source
import ApiForge.Import.SchemaForm
import ApiForge.Document.Height
import ApiForge.Import.Schema
import ApiForge.Import.Parameter
import ApiForge.Import.Body
import ApiForge.Import.Operation
import ApiForge.Import.Server
import ApiForge.Import.Api
import ApiForge.TypeScript.TypeExpr
import ApiForge.TypeScript.Declaration
import ApiForge.TypeScript.PathTemplate
import ApiForge.TypeScript.ClientCore
import ApiForge.TypeScript.Client
import ApiForge.Markdown.Label
import ApiForge.Markdown.Page
import ApiForge.Markdown.Layout
import ApiForge.Artifacts
import ApiForge.Record.Field
import ApiForge.Record.Scalar
import ApiForge.Record.Schema
import ApiForge.Record.Api
import ApiForge.Record.Manifest
import ApiForge.Record.Settings
import ApiForge.Validation.Rules
import ApiForge.Files.Disk
import ApiForge.Files.Change
import ApiForge.Publishing.Listing
import ApiForge.Console.Basic
import ApiForge.Console.Table
import ApiForge.Settings.Precedence
import ApiForge.Command.Arguments
import ApiForge.Command.Invocation
import ApiForge.Command.Acquire
import ApiForge.Command.DataFolder
import ApiForge.Command.Generate
import ApiForge.Command.Inspect
import ApiForge.Command.List
import ApiForge.Command.Program
import ApiForge.Main
import ApiForge.Proofs.Success
import ApiForge.Proofs.Assignment
import ApiForge.Proofs.Import.SchemaReferences
import ApiForge.Proofs.Import.ApiReferences
import ApiForge.Proofs.Import.OperationSites
import ApiForge.Proofs.Import.ParameterNames
import ApiForge.Proofs.Naming.Forms
import ApiForge.Proofs.TypeScript.DeclaredNames
import ApiForge.Proofs.TypeScript.DistinctNames
import ApiForge.Proofs.TypeScript.ClassMembers
import ApiForge.Proofs.TypeScript.OperationDeclarations
import ApiForge.Proofs.TypeScript.TemplateReads
import ApiForge.Proofs.TypeScript.Signatures
import ApiForge.Proofs.Files.Tree
import ApiForge.Proofs.Files.Trace
import ApiForge.Proofs.Publishing.Ending
import ApiForge.Proofs.Publishing.Safety
import ApiForge.Proofs.TypeScript.ReservedNames
import ApiForge.Proofs.Discovery.BrokenOff
import ApiForge.Proofs.Reference.CyclePoints
import ApiForge.Proofs.Artifacts.TypeClashes
import ApiForge.Proofs.Model.Groups
import ApiForge.Proofs.TypeScript.MethodPaths
import ApiForge.Proofs.Artifacts.OperationPaths
import ApiForge.Proofs.Reference.Copies
import ApiForge.Proofs.Reference.KeptReferences
import ApiForge.Proofs.Reference.Following
import ApiForge.Proofs.Import.ReferencePlaces
import ApiForge.Proofs.Import.ExpandedFields
import ApiForge.Proofs.Import.ExpandedParameters
import ApiForge.Proofs.Import.ExpandedBodies
import ApiForge.Proofs.Import.ExpandedOperations
import ApiForge.Proofs.Import.ExpandedApi
import ApiForge.Proofs.Record.StoredManifest
import ApiForge.Proofs.Publishing.Outcomes
import ApiForge.Proofs.Publishing.Sequence
import ApiForge.Proofs.Command.AllOrNothing
import ApiForge.Proofs.Publishing.Damaged
import ApiForge.Proofs.Import.AcceptedMarkers
import ApiForge.Proofs.Markdown.Headings
import ApiForge.Proofs.Markdown.ContentsLinks
import ApiForge.Proofs.Command.DocumentOutput
import ApiForge.Proofs.Import.BoundedRuns
import ApiForge.Proofs.Markdown.TableGrid
import ApiForge.Proofs.TypeScript.TemplateValues
import ApiForge.Proofs.TypeScript.UnambiguousTypes
import ApiForge.Proofs.TypeScript.MemberKeys
import ApiForge.Proofs.TypeScript.MethodNames
import ApiForge.Proofs.Markdown.DistinctTargets
import ApiForge.Proofs.Reference.BoundedExpansion
import ApiForge.Proofs.Decimal.Numerals
import ApiForge.Proofs.Reference.PointerPaths
import ApiForge.Proofs.Reference.PointerSegments
import ApiForge.Proofs.Import.SchemaLookups
import ApiForge.Proofs.Import.CycleGuard
import ApiForge.Proofs.Artifacts.QuickStart
import ApiForge.Proofs.Markdown.CodeSpans
import ApiForge.Proofs.Document.Loading
import ApiForge.Proofs.Record.SchemaPayloads
import ApiForge.Proofs.Console.PlainTables
