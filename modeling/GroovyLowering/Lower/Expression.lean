import GroovyLowering.Lower.Command
import GroovyLowering.Lower.Creator
import GroovyLowering.Lower.GString
import GroovyLowering.Lower.Operator

/-!
# Lowering expressions

An expression is lowered by its production.  What is inside it is lowered by the scope, one level
further in.
-/

namespace GroovyLowering.Scope

/-- Lower an expression in parentheses: it gets the span of the parentheses. -/
def parenthesized (s : Scope) (n : Node) : Lowered Expr := do
  let inner ← s.expr (← s.node n .expression)
  return { inner with span := n.span, parenthesized := true }

/-- Lower a list. -/
def list (s : Scope) (n : Node) : Lowered Expr := do
  return { shape := .list (← s.elements n) false, span := s.spanOf n }

/-- Lower a map. -/
def map (s : Scope) (n : Node) : Lowered Expr := do
  return { shape := .map (← s.mapEntries n), span := s.spanOf n }

/-- Lower a name, given the role of its token. -/
def nameOf (s : Scope) (n : Node) (role : Role) : Lowered Expr := do
  return .named (← s.token n role).text (s.spanOf n)

/-- Lower an expression. -/
def expression (s : Scope) (n : Node) : Lowered Expr :=
  match n.kind with
  | .path => s.path n
  | .commandExpression => s.command n
  | .expressionListElement => s.element n
  | .postfixExpression => s.stepAfter n
  | .unaryAdd => s.unary n
  | .unaryNot => s.negation n
  | .cast => s.cast n
  | .binary => s.binary n
  | .typeTest => s.typeTest n
  | .conditional => s.conditional n
  | .assignment => s.assignment n
  | .identifier => s.nameOf n .identifier
  | .literal => s.literal n
  | .gstring => s.gstring n
  | .creator => s.creator n
  | .thisReference => .ok (.self (s.spanOf n))
  | .superReference => .ok (.named "super" (s.spanOf n))
  | .parExpression => s.parenthesized n
  | .list => s.list n
  | .map => s.map n
  | .builtInType => s.nameOf n .primitive
  | .closure => s.closure n
  | _ => s.refuse n .unsupportedExpression

end GroovyLowering.Scope
