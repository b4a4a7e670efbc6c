import Xref.Diagnostic
import Xref.Extraction
import Xref.Index.Basic
import Xref.Index.Interchange
import Xref.Indexing.Gap
import Xref.Indexing.Module
import Xref.Indexing.Trace
import Xref.Json.Basic
import Xref.Json.Lexer
import Xref.Json.Parser
import Xref.Json.Token
import Xref.Name
import Xref.Namespace
import Xref.Phase
import Xref.Query.Definition
import Xref.Query.DocLink
import Xref.Query.Highlight
import Xref.Query.Hover
import Xref.Query.TypeHint
import Xref.Record
import Xref.Settings.Config
import Xref.Settings.Mode
import Xref.Settings.Support
import Xref.Shape
import Xref.Source.Location
import Xref.Source.Position
import Xref.Source.Span
import Xref.Text.Blank
import Xref.Text.Identifier
import Xref.Text.Identifier.Continue
import Xref.Text.Identifier.Start
import Xref.Tree.Basic
import Xref.Tree.Grammar
import Xref.Tree.Outline
import Xref.Proofs.Traversal.Modes
import Xref.Proofs.Traversal.Sites
import Xref.Proofs.Traversal.Walk
import Xref.Proofs.Index.Lookup
import Xref.Proofs.Traversal.Accounting
import Xref.Proofs.Traversal.Identifiers
import Xref.Proofs.Traversal.Failure
import Xref.Proofs.Traversal.Acceptance
import Xref.Proofs.Index.Union
import Xref.Proofs.Traversal.AtSpan
import Xref.Proofs.Traversal.Breadcrumbs
import Xref.Proofs.Extraction.BothTrees
import Xref.Proofs.Extraction.Erasure
import Xref.Proofs.Extraction.Types
import Xref.Proofs.Source.ByteOrder
import Xref.Proofs.Index.History
import Xref.Proofs.Index.Band
import Xref.Proofs.Json.Lexing
import Xref.Proofs.Json.Reading
import Xref.Proofs.Index.Persistence
import Xref.Proofs.Traversal.Confinement
import Xref.Proofs.Traversal.Declarations
import Xref.Proofs.Traversal.Widening
import Xref.Proofs.Extraction.Batch
import Xref.Proofs.Traversal.Transparency
import Xref.Proofs.Index.Overlap
import Xref.Proofs.Source.Extent
import Xref.Proofs.Query.AtPosition
import Xref.Proofs.Query.Nesting
import Xref.Proofs.Query.Definitions
import Xref.Proofs.Query.EachEntry
import Xref.Proofs.Query.Hints
import Xref.Proofs.Query.OuterArrow
import Xref.Proofs.Delimiter
import Xref.Proofs.Source.LocationText
import Xref.Proofs.Query.Highlights
import Xref.Proofs.Query.Links
import Xref.Proofs.Traversal.Collecting
import Xref.Proofs.Settings.Changes
import Xref.Proofs.Traversal.PassedOver
