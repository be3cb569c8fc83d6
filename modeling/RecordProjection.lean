import RecordProjection.Command.ArgumentFault
import RecordProjection.Command.Arguments
import RecordProjection.Command.ConfigFault
import RecordProjection.Command.Console
import RecordProjection.Command.Failure
import RecordProjection.Command.Flag
import RecordProjection.Command.Help
import RecordProjection.Command.RawValue
import RecordProjection.Command.Request
import RecordProjection.Command.Run
import RecordProjection.Command.Word
import RecordProjection.Diagnostic
import RecordProjection.Directive.Body
import RecordProjection.Directive.Bracket
import RecordProjection.Directive.Collecting
import RecordProjection.Directive.Declared
import RecordProjection.Directive.Documentation
import RecordProjection.Directive.Kind
import RecordProjection.Directive.Malformation
import RecordProjection.Directive.Membership
import RecordProjection.Directive.Override
import RecordProjection.Directive.Reading
import RecordProjection.Directive.Token
import RecordProjection.Files.Fault
import RecordProjection.Files.Path
import RecordProjection.Files.Tree
import RecordProjection.Main
import RecordProjection.Markup.Allowance
import RecordProjection.Markup.CodePage
import RecordProjection.Markup.Content
import RecordProjection.Markup.Declaration
import RecordProjection.Markup.Doctype.AttributeList
import RecordProjection.Markup.Doctype.ContentModel
import RecordProjection.Markup.Doctype.EntityDeclaration
import RecordProjection.Markup.Doctype.ForeignFormat
import RecordProjection.Markup.Doctype.Token
import RecordProjection.Markup.Document
import RecordProjection.Markup.Element
import RecordProjection.Markup.Encoding
import RecordProjection.Markup.Entity
import RecordProjection.Markup.Fault
import RecordProjection.Markup.NameChar
import RecordProjection.Markup.Namespace
import RecordProjection.Markup.Opening
import RecordProjection.Markup.Piece
import RecordProjection.Markup.Prolog
import RecordProjection.Markup.PrologToken
import RecordProjection.Markup.Scan
import RecordProjection.Markup.Tag
import RecordProjection.Markup.Value
import RecordProjection.Markup.Writer
import RecordProjection.Projection.Annotations
import RecordProjection.Projection.Definition
import RecordProjection.Projection.Expansion
import RecordProjection.Projection.Generics
import RecordProjection.Projection.Invariant
import RecordProjection.Projection.Spec
import RecordProjection.Proofs.Command.Effect
import RecordProjection.Proofs.Command.Performing
import RecordProjection.Proofs.Command.Printing
import RecordProjection.Proofs.Command.Reporting
import RecordProjection.Proofs.Command.Request
import RecordProjection.Proofs.Command.Summary
import RecordProjection.Proofs.Directive.Body
import RecordProjection.Proofs.Directive.Capture
import RecordProjection.Proofs.Directive.Commas
import RecordProjection.Proofs.Directive.Cutting
import RecordProjection.Proofs.Directive.Enclosure
import RecordProjection.Proofs.Directive.Excerpt
import RecordProjection.Proofs.Directive.Extent
import RecordProjection.Proofs.Directive.Items
import RecordProjection.Proofs.Directive.Lexeme
import RecordProjection.Proofs.Directive.Listing
import RecordProjection.Proofs.Directive.Literal
import RecordProjection.Proofs.Directive.Matching
import RecordProjection.Proofs.Directive.Membership
import RecordProjection.Proofs.Directive.Nesting
import RecordProjection.Proofs.Directive.Parsing
import RecordProjection.Proofs.Directive.Partition
import RecordProjection.Proofs.Directive.Slicing
import RecordProjection.Proofs.Directive.Spans
import RecordProjection.Proofs.Directive.Splitting
import RecordProjection.Proofs.Directive.Unquoting
import RecordProjection.Proofs.Directive.Written
import RecordProjection.Proofs.Files.Content
import RecordProjection.Proofs.Files.Ordinary
import RecordProjection.Proofs.Markup.Document
import RecordProjection.Proofs.Markup.Escape
import RecordProjection.Proofs.Markup.LegalDeclarations
import RecordProjection.Proofs.Markup.LegalTree
import RecordProjection.Proofs.Markup.Legality
import RecordProjection.Proofs.Markup.Rendering
import RecordProjection.Proofs.Markup.Tag
import RecordProjection.Proofs.Projection.Annotations
import RecordProjection.Proofs.Projection.Arguments
import RecordProjection.Proofs.Projection.Context
import RecordProjection.Proofs.Projection.Conversion
import RecordProjection.Proofs.Projection.Diagnosis
import RecordProjection.Proofs.Projection.Documentation
import RecordProjection.Proofs.Projection.Emission
import RecordProjection.Proofs.Projection.Independence
import RecordProjection.Proofs.Projection.Locality
import RecordProjection.Proofs.Projection.Occurrence
import RecordProjection.Proofs.Projection.Origin
import RecordProjection.Proofs.Projection.Provenance
import RecordProjection.Proofs.Projection.Reference
import RecordProjection.Proofs.Projection.Refusal
import RecordProjection.Proofs.Projection.Selection
import RecordProjection.Proofs.Projection.Soundness
import RecordProjection.Proofs.Projection.Usage
import RecordProjection.Proofs.Projection.Wording
import RecordProjection.Proofs.Reading
import RecordProjection.Proofs.Registry.Acceptance
import RecordProjection.Proofs.Registry.Exactness
import RecordProjection.Proofs.Registry.Indentation
import RecordProjection.Proofs.Registry.Integrity
import RecordProjection.Proofs.Registry.LineEnd
import RecordProjection.Proofs.Registry.Preservation
import RecordProjection.Proofs.Registry.Promise
import RecordProjection.Proofs.Registry.Readback
import RecordProjection.Proofs.Registry.Regeneration
import RecordProjection.Proofs.Registry.Schema
import RecordProjection.Proofs.Registry.Settling
import RecordProjection.Proofs.Registry.Storage
import RecordProjection.Proofs.Registry.Unchanged
import RecordProjection.Proofs.Registry.Writability
import RecordProjection.Proofs.Report.Agreement
import RecordProjection.Proofs.Report.Detail
import RecordProjection.Proofs.Report.Table
import RecordProjection.Proofs.Selector.Grammar
import RecordProjection.Proofs.Selector.Naming
import RecordProjection.Proofs.Selector.Printing
import RecordProjection.Proofs.Selector.Renaming
import RecordProjection.Proofs.Session
import RecordProjection.Proofs.Text.Blank
import RecordProjection.Proofs.Text.Column
import RecordProjection.Proofs.Text.LineEnd
import RecordProjection.Proofs.Text.Name
import RecordProjection.Proofs.Text.Numeral
import RecordProjection.Proofs.Text.SnakeCase
import RecordProjection.Record
import RecordProjection.Registry.Document
import RecordProjection.Registry.Fault
import RecordProjection.Registry.Reading
import RecordProjection.Registry.Storage
import RecordProjection.Registry.Writing
import RecordProjection.Report.Detail
import RecordProjection.Report.Generation
import RecordProjection.Report.Summary
import RecordProjection.Report.Table
import RecordProjection.Selector
import RecordProjection.Selector.Parser
import RecordProjection.Session
import RecordProjection.Text.Case
import RecordProjection.Text.Case.Table
import RecordProjection.Text.Character
import RecordProjection.Text.Display
import RecordProjection.Text.Identifier
import RecordProjection.Text.Numeral
import RecordProjection.Text.Printable.Table
