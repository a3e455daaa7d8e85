import StubLayers.Check
import StubLayers.Cli.Arguments
import StubLayers.Cli.Flag
import StubLayers.Cli.Run
import StubLayers.Config.Basic
import StubLayers.Config.Load
import StubLayers.Config.Settings
import StubLayers.Decimal.Shortest
import StubLayers.Decimal.Text
import StubLayers.Declaration.Basic
import StubLayers.Declaration.Body
import StubLayers.Declaration.Parameters
import StubLayers.Declaration.Refusal
import StubLayers.Declaration.Source
import StubLayers.Declaration.TypeText
import StubLayers.Duplicates
import StubLayers.Files.Host
import StubLayers.Files.Path
import StubLayers.Files.Tree
import StubLayers.Index
import StubLayers.Json.Reader
import StubLayers.Json.Value
import StubLayers.Layer.Basic
import StubLayers.Layer.Load
import StubLayers.Layer.Stubs
import StubLayers.Layer.Workers
import StubLayers.Log.Record
import StubLayers.Log.Session
import StubLayers.Main
import StubLayers.Project
import StubLayers.Proofs.Annotations
import StubLayers.Proofs.Assignments
import StubLayers.Proofs.Check
import StubLayers.Proofs.Comments
import StubLayers.Proofs.Copies
import StubLayers.Proofs.DocumentOrder
import StubLayers.Proofs.Expressions
import StubLayers.Proofs.Fallback
import StubLayers.Proofs.Forward
import StubLayers.Proofs.FrontEnds
import StubLayers.Proofs.Growth
import StubLayers.Proofs.Identifiers
import StubLayers.Proofs.Index
import StubLayers.Proofs.IndexRuns
import StubLayers.Proofs.Interleaving
import StubLayers.Proofs.Kinds
import StubLayers.Proofs.LayerOrder
import StubLayers.Proofs.Lexemes
import StubLayers.Proofs.Listing
import StubLayers.Proofs.Names
import StubLayers.Proofs.Numerals
import StubLayers.Proofs.Origin
import StubLayers.Proofs.Overlap
import StubLayers.Proofs.OverloadRuns
import StubLayers.Proofs.ParameterLayout
import StubLayers.Proofs.Parameters
import StubLayers.Proofs.Places
import StubLayers.Proofs.Provenance
import StubLayers.Proofs.Published
import StubLayers.Proofs.Reading
import StubLayers.Proofs.Refusals
import StubLayers.Proofs.Removal
import StubLayers.Proofs.Rendering
import StubLayers.Proofs.Rules
import StubLayers.Proofs.Semicolons
import StubLayers.Proofs.Shapes
import StubLayers.Proofs.Spans
import StubLayers.Proofs.Spelling
import StubLayers.Proofs.Statements
import StubLayers.Proofs.Stubs
import StubLayers.Proofs.Tags
import StubLayers.Proofs.Types
import StubLayers.Proofs.Verdict
import StubLayers.Proofs.Workers
import StubLayers.Report
import StubLayers.Service.Payload
import StubLayers.Service.Reply
import StubLayers.Source.Location
import StubLayers.Source.Span
import StubLayers.Stub.Diagnosis
import StubLayers.Stub.Grammar.Basic
import StubLayers.Stub.Grammar.Expression
import StubLayers.Stub.Grammar.Statement
import StubLayers.Stub.Grammar.Target
import StubLayers.Stub.Grammar.Type
import StubLayers.Stub.Layout
import StubLayers.Stub.Module
import StubLayers.Stub.Number
import StubLayers.Stub.Quote
import StubLayers.Stub.Reader
import StubLayers.Stub.Token
import StubLayers.Stub.Tree
import StubLayers.Text.Blank
import StubLayers.Text.Digit
import StubLayers.Text.Identifier
import StubLayers.Text.Integer
import StubLayers.Text.Lowercase
import StubLayers.Text.Pattern
import StubLayers.Text.Printable
import StubLayers.Text.Quoted
import StubLayers.Text.Ranges
import StubLayers.Text.Utf8
import StubLayers.Yaml.Cursor
import StubLayers.Yaml.Form
import StubLayers.Yaml.Node
import StubLayers.Yaml.Scalar
import StubLayers.Yaml.Token
import StubLayers.Yaml.Value
import StubLayers.Proofs.Paragraphs
import StubLayers.Proofs.ModuleNames
import StubLayers.Proofs.LoggedChecks
import StubLayers.Proofs.LogRuns
