import ApiDocs.Main
import ApiDocs.CommandLine.Loading
import ApiDocs.Proofs.FirstBy
import ApiDocs.Proofs.Dict
import ApiDocs.Proofs.Json.RoundTrip
import ApiDocs.Proofs.Record.Drafting
import ApiDocs.Proofs.Document.Accounting
import ApiDocs.Proofs.Schema.Violations
import ApiDocs.Proofs.Record.Entries
import ApiDocs.Proofs.Schema.Baseline
import ApiDocs.Proofs.Record.Shape
import ApiDocs.Proofs.Schema.Gaps
import ApiDocs.Proofs.Schema.Admitted
import ApiDocs.Proofs.Markup.Flat
import ApiDocs.Proofs.Document.Outline
import ApiDocs.Proofs.Document.Shape
import ApiDocs.Proofs.Document.Gaps
import ApiDocs.Proofs.Document.Signature
import ApiDocs.Proofs.Document.Arguments
import ApiDocs.Proofs.Document.Headings
import ApiDocs.Proofs.Text
import ApiDocs.Proofs.Markup.Spacing
import ApiDocs.Proofs.Layout.Names
import ApiDocs.Proofs.Layout.Parameters
import ApiDocs.Proofs.Layout.Bullets
import ApiDocs.Proofs.Layout.Members
import ApiDocs.Proofs.Layout.Pages
import ApiDocs.Proofs.Layout.Records
import ApiDocs.Proofs.Document.Nesting
import ApiDocs.Proofs.Document.Places
import ApiDocs.Proofs.Document.Segments
import ApiDocs.Proofs.Document.Independence
import ApiDocs.Proofs.Document.Localized
import ApiDocs.Proofs.Markup.Folding
import ApiDocs.Proofs.Except
import ApiDocs.Proofs.CommandLine.Arguments
import ApiDocs.Proofs.FileTree
import ApiDocs.Proofs.CommandLine.Endings
import ApiDocs.Proofs.CommandLine.Loading
import ApiDocs.Proofs.Toml.Tables
import ApiDocs.Proofs.Config.Overlay
import ApiDocs.Proofs.Config.Variables
import ApiDocs.Proofs.Config.Layers
import ApiDocs.Proofs.Slug.Letters
import ApiDocs.Proofs.Slug.Idempotence
import ApiDocs.Proofs.Document.Items
import ApiDocs.Proofs.Layout.Wrapping
import ApiDocs.Proofs.Slug.Expression
import ApiDocs.Proofs.Config.Aliases
import ApiDocs.Proofs.Markup.Words
import ApiDocs.Proofs.Layout.Signatures
import ApiDocs.Proofs.Slug.Camel
import ApiDocs.Proofs.Document.Stems
import ApiDocs.Proofs.Record.Reading
import ApiDocs.Proofs.Json.Order
import ApiDocs.Proofs.Schema.Summaries
import ApiDocs.Proofs.Document.Platforms
import ApiDocs.Proofs.Markup.Stack
import ApiDocs.Proofs.Markup.Nesting
import ApiDocs.Proofs.Markup.Paragraphs
import ApiDocs.Proofs.Document.Reports
