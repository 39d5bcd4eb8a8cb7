import SqlTemplate.Main
import SqlTemplate.Proofs.Expansion.Filter
import SqlTemplate.Value.Conversion
import SqlTemplate.Proofs.Expansion.Noninterference
import SqlTemplate.Proofs.Context.Emission
import SqlTemplate.Proofs.Context.Escapes
import SqlTemplate.Proofs.Span.Whole
import SqlTemplate.Proofs.Expr.Name
import SqlTemplate.Proofs.Expr.Path
import SqlTemplate.Proofs.Expr.Scalar
import SqlTemplate.Proofs.Placeholder.Head
import SqlTemplate.Proofs.Context.Variable
import SqlTemplate.Proofs.Expansion.Bound
import SqlTemplate.Proofs.Expansion.Scope
import SqlTemplate.Proofs.Statement.Contents
import SqlTemplate.Proofs.Statement.Deferred
import SqlTemplate.Proofs.Number.Order
import SqlTemplate.Proofs.Expr.Grammar
import SqlTemplate.Proofs.Expr.Meaning
import SqlTemplate.Proofs.Expansion.Origin
import SqlTemplate.Proofs.Expansion.Iteration
import SqlTemplate.Proofs.Expansion.Shadow
import SqlTemplate.Proofs.Expansion.Filling
import SqlTemplate.Proofs.Statement.Substitution
import SqlTemplate.Proofs.Expansion.Leftover
import SqlTemplate.Proofs.Span.Escaping
import SqlTemplate.Proofs.Span.EscapeFree
import SqlTemplate.Proofs.Context.Scoping
import SqlTemplate.Proofs.Schema.Conformance
import SqlTemplate.Proofs.Schema.Agreement
import SqlTemplate.Proofs.Context.Handing
import SqlTemplate.Proofs.Context.Decorator
import SqlTemplate.Proofs.Expansion.Extension
import SqlTemplate.Proofs.Expansion.Locality
import SqlTemplate.Proofs.Expansion.Separator
import SqlTemplate.Proofs.Text.Squeeze
import SqlTemplate.Proofs.Span.Squeeze
import SqlTemplate.Proofs.Placeholder.Squeeze
import SqlTemplate.Proofs.Statement.Shrink
import SqlTemplate.Proofs.Statement.Writing
import SqlTemplate.Proofs.Expansion.Verbatim
import SqlTemplate.Proofs.Statement.Reference
import SqlTemplate.Proofs.Statement.Enclosed
import SqlTemplate.Proofs.Expansion.Guard
import SqlTemplate.Proofs.Expr.Comparison
import SqlTemplate.Proofs.Span.Rewrap
import SqlTemplate.Proofs.Span.Scan
import SqlTemplate.Proofs.Statement.Scanned
import SqlTemplate.Proofs.Expr.Nesting
import SqlTemplate.Proofs.Expr.Depth
import SqlTemplate.Proofs.Schema.Composition
import SqlTemplate.Proofs.Value.Text
import SqlTemplate.Proofs.Command.Lines
import SqlTemplate.Proofs.Span.Bytes
import SqlTemplate.Proofs.Span.Tearing
import SqlTemplate.Proofs.Schema.Spelling
import SqlTemplate.Proofs.Number.Finite
import SqlTemplate.Proofs.Value.Serialization
import SqlTemplate.Proofs.Template.Members
import SqlTemplate.Proofs.Value.RoundTrip
import SqlTemplate.Proofs.Json.Reading
import SqlTemplate.Proofs.Template.Storage
