import GroovyLowering.Ast.Text
import GroovyLowering.Lower.Literal
import GroovyLowering.Lower.TypeRef

/-!
# Lowering operators

Operands are lowered before the operator is looked at, so of two problems the one in an operand is
reported.  An assignment is the exception: its target and its operator come before its value.

A sign in front of a constant that is not in parentheses is folded into it.  A plus sign changes
only the place, and a minus sign is read together with a literal or else flips the sign of a
number.  A constant that is no number cannot have a minus sign.

Only a variable can be assigned to, and not one in parentheses, `this` or `super`.
-/

namespace GroovyLowering

/-- Whether an expression may be assigned to. -/
def Expr.isAssignable (e : Expr) : Bool :=
  !e.parenthesized && e.asVariable?.any fun v => v.name != "this" && v.name != "super"

/-- The constant that a sign in front of an expression is folded into. -/
def Expr.foldable? (e : Expr) : Option Constant := if e.parenthesized then none else e.asConstant?

namespace Scope

/-! ## Signs and steps -/

/-- Lower a step behind its operand. -/
def stepAfter (s : Scope) (n : Node) : Lowered Expr := do
  let operand ← s.expr (← s.node n .operand)
  let op ← s.token n .operator
  match Step.ofText? op.text with
  | some step => return { shape := .stepAfter operand step, span := s.spanOf n }
  | none => s.refuse n .unsupportedStep

/-- A minus sign folded into a constant, given the node of its operand. -/
def negateConstant (s : Scope) (n operandNode : Node) (c : Constant) : Lowered Expr :=
  match c.value with
  | .number value => do
    let negated := (← s.signFlipped? operandNode).getD value.negate
    return .constant (.number negated false) n.span
  | _ => .error (.structural .negatedValue c.text n.span)

/-- Lower a sign or a step in front of its operand. -/
def unary (s : Scope) (n : Node) : Lowered Expr := do
  let op ← s.token n .operator
  let operandNode ← s.node n .operand
  let operand ← s.expr operandNode
  if op.text = "+" then
    match operand.foldable? with
    | some _ => return operand.withSpan n.span
    | none => return { shape := .plus operand, span := n.span }
  else if op.text = "-" then
    match operand.foldable? with
    | some c => s.negateConstant n operandNode c
    | none => return { shape := .minus operand, span := n.span }
  else
    match Step.ofText? op.text with
    | some step => return { shape := .stepBefore step operand, span := n.span }
    | none => s.refuse n .unsupportedUnary

/-- Lower a negation. -/
def negation (s : Scope) (n : Node) : Lowered Expr := do
  let operand ← s.expr (← s.node n .operand)
  let op ← s.token n .operator
  if op.text = "!" then return { shape := .not operand, span := s.spanOf n }
  else if op.text = "~" then return { shape := .bitNot operand, span := s.spanOf n }
  else s.refuse n .unsupportedUnary

/-! ## Operators between two operands -/

/-- What an operator makes of its two operands. -/
def binaryShape? (left : Expr) (op : String) (right : Expr) : Option ExprShape :=
  if op = ".." then some (.range left right true)
  else if op = "..<" then some (.range left right false)
  else (BinaryOp.ofText? op).map fun op => .binary left op right

/-- Lower an operator between two operands.  An operator may arrive as several tokens. -/
def binary (s : Scope) (n : Node) : Lowered Expr := do
  let left ← s.expr (← s.node n .left)
  let right ← s.expr (← s.node n .right)
  match binaryShape? left (String.join ((n.tokens .operator).map Token.text)) right with
  | some shape => return { shape, span := n.span }
  | none => s.refuse n .unsupportedBinary

/-- Lower an assignment. -/
def assignment (s : Scope) (n : Node) : Lowered Expr := do
  let leftNode ← s.node n .left
  let left ← s.expr leftNode
  if left.isAssignable then
    let op ← s.token n .operator
    match (BinaryOp.ofText? op.text).filter BinaryOp.isAssignment with
    | some op =>
      let right ← s.expr (← s.node n .right)
      return { shape := .binary left op right, span := n.span }
    | none => s.refuse n .unsupportedAssignment
  else .error (.invalid .assignedToNonVariable leftNode.span)

/-! ## Types as operands -/

/-- Lower a cast. -/
def cast (s : Scope) (n : Node) : Lowered Expr := do
  let type ← s.typeRef (← s.node n .type)
  let operand ← s.expr (← s.node n .operand)
  return { shape := .cast type operand false, span := s.spanOf n }

/-- Lower a type test or a coercion. -/
def typeTest (s : Scope) (n : Node) : Lowered Expr := do
  let left ← s.expr (← s.node n .left)
  let typeNode ← s.node n .type
  let type ← s.typeRef typeNode
  let op ← s.token n .operator
  if op.text = "as" then return { shape := .cast type left true, span := s.spanOf n }
  else if op.text = "instanceof" then
    let right : Expr := { shape := .classValue type, span := typeNode.span }
    return { shape := .binary left .instanceOf right, span := s.spanOf n }
  else s.refuse n .unsupportedTypeTest

/-! ## Choices -/

/-- Lower a choice.  The last operand is lowered before the one in the middle. -/
def conditional (s : Scope) (n : Node) : Lowered Expr := do
  let conditionNode ← s.node n .condition
  let condition ← s.expr conditionNode
  let no ← s.expr (← s.node n .elseBranch)
  if (n.token? .operator).any fun t => t.text == "?:" then
    return { shape := .elvis condition no, span := s.spanOf n }
  else
    let yes ← s.expr (← s.node n .thenBranch)
    return { shape := .ternary (.truth condition conditionNode.span) yes no, span := s.spanOf n }

end Scope

end GroovyLowering
