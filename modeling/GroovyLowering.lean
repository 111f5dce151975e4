import GroovyLowering.Builder.Unit
import GroovyLowering.Diagnostic.Report
import GroovyLowering.Lower.Unit
import GroovyLowering.Tree.Construct.Declaration
import GroovyLowering.Tree.Layout
import GroovyLowering.Proofs.Spans.Map
import GroovyLowering.Proofs.Spans.Text
import GroovyLowering.Proofs.Comparison.Basic
import GroovyLowering.Proofs.Comparison.Query
import GroovyLowering.Proofs.Comparison.Type
import GroovyLowering.Proofs.Comparison.Annotation
import GroovyLowering.Proofs.Comparison.Block
import GroovyLowering.Proofs.Comparison.Operator
import GroovyLowering.Proofs.Comparison.Path
import GroovyLowering.Proofs.Comparison.Expression
import GroovyLowering.Proofs.Comparison.Statement
import GroovyLowering.Proofs.Comparison.Unit
import GroovyLowering.Proofs.Relayout
import GroovyLowering.Proofs.Command
import GroovyLowering.Proofs.WellFormed.Part
import GroovyLowering.Proofs.WellFormed.Rule
import GroovyLowering.Proofs.Invariant.Basic
import GroovyLowering.Proofs.Invariant.Call
import GroovyLowering.Proofs.Invariant.Block
import GroovyLowering.Proofs.Invariant.Expression
import GroovyLowering.Proofs.Invariant.Statement
import GroovyLowering.Proofs.Invariant.Unit
import GroovyLowering.Proofs.WellFormed.Unit
import GroovyLowering.Proofs.Literal.Integer
import GroovyLowering.Proofs.Written.Text
import GroovyLowering.Proofs.Written.Basic
import GroovyLowering.Proofs.Written.Grammar
import GroovyLowering.Proofs.Written.Type
import GroovyLowering.Proofs.Written.Operator
import GroovyLowering.Proofs.Written.Argument
import GroovyLowering.Proofs.Written.Path
import GroovyLowering.Proofs.Written.RoundTrip
import GroovyLowering.Proofs.Relaxed
import GroovyLowering.Proofs.Literal.Delimiter
import GroovyLowering.Proofs.Literal.Escape
import GroovyLowering.Proofs.Literal.Quoted
import GroovyLowering.Proofs.Literal.Content
import GroovyLowering.Proofs.Layout.Offset
import GroovyLowering.Proofs.Layout.Order
import GroovyLowering.Proofs.Origin.Unit
import GroovyLowering.Proofs.Origin.Within
import GroovyLowering.Proofs.Literal.Grammar
import GroovyLowering.Proofs.GString
import GroovyLowering.Proofs.Literal.Minus
import GroovyLowering.Proofs.Sign
import GroovyLowering.Proofs.Switch
import GroovyLowering.Proofs.Arguments
import GroovyLowering.Proofs.Builder.Unit
import GroovyLowering.Proofs.Failure.Unit
import GroovyLowering.Proofs.Assignment
import GroovyLowering.Proofs.ListDepth
import GroovyLowering.Proofs.Sink
import GroovyLowering.Proofs.Offset
import GroovyLowering.Proofs.Context
import GroovyLowering.Proofs.Moved
import GroovyLowering.Proofs.Path
import GroovyLowering.Proofs.TrailingClosure
import GroovyLowering.Proofs.LocalVariable
import GroovyLowering.Proofs.Literal.Decimal
import GroovyLowering.Proofs.Modifier
import GroovyLowering.Proofs.DottedValue
import GroovyLowering.Proofs.Annotation
