import GroovyLowering.Lower.Loop
import GroovyLowering.Lower.Switch
import GroovyLowering.Lower.Try

/-!
# Lowering statements

A statement is lowered by its production, in a place that holds one statement.  Where a declaration
gives several, they are put into a block.
-/

namespace GroovyLowering.Scope

/-- Lower a condition to its truth value. -/
def condition (s : Scope) (n : Node) : Lowered Expr := do
  let child ← s.node n .condition
  return .truth (← s.expr child) child.span

/-- Lower an assertion. -/
def assertion (s : Scope) (n : Node) : Lowered StmtShape := do
  let condition ← s.condition n
  return .assertion condition (← s.expr? n .message)

/-- Lower the other branch of a choice, or nothing at the place of the choice. -/
def elseBranch (s : Scope) (n : Node) : Lowered Stmt :=
  match n.node? .elseBranch with
  | some child => s.stmt child
  | none => .ok (.nothing (s.spanOf n))

/-- Lower a choice between two statements. -/
def choice (s : Scope) (n : Node) : Lowered StmtShape := do
  let condition ← s.condition n
  let yes ← s.stmt (← s.node n .thenBranch)
  return .conditional condition yes (← s.elseBranch n)

/-- Lower a loop with a condition. -/
def whileLoop (s : Scope) (n : Node) : Lowered StmtShape := do
  let condition ← s.condition n
  return .whileLoop condition (← s.stmt (← s.node n .body))

/-- Lower a statement that holds a lock. -/
def synchronized (s : Scope) (n : Node) : Lowered StmtShape := do
  let lock ← s.expr (← s.node n .condition)
  return .synchronized lock (← s.stmt (← s.node n .body))

/-- Lower a return statement.  Without a value it returns `null`. -/
def returnValue (s : Scope) (n : Node) : Lowered StmtShape := do
  return .returnValue ((← s.expr? n .expression).getD (.null (s.spanOf n)))

/-- A statement with the span of its node. -/
def placed (s : Scope) (n : Node) (shape : Lowered StmtShape) : Lowered Stmt := do
  return { shape := ← shape, span := s.spanOf n }

/-- Lower a statement that may give several. -/
def single (s : Scope) (n : Node) : Lowered Stmt := do
  match ← s.blockStatement n with
  | [statement] => return statement
  | several => return .block several (s.spanOf n)

/-- Lower a statement. -/
def statement (s : Scope) (n : Node) : Lowered Stmt :=
  match n.kind with
  | .block => s.block n
  | .assertStatement => s.placed n (s.assertion n)
  | .ifStatement => s.placed n (s.choice n)
  | .forStatement => s.forLoop n
  | .whileStatement => s.placed n (s.whileLoop n)
  | .tryStatement => s.tryCatch n
  | .switchStatement => s.switch n
  | .synchronizedStatement => s.placed n (s.synchronized n)
  | .returnStatement => s.placed n (s.returnValue n)
  | .throwStatement =>
    s.placed n do return .throwValue (← s.expr (← s.node n .expression))
  | .breakStatement => s.placed n (.ok (.breakLoop ((n.token? .label).map Token.text)))
  | .continueStatement => s.placed n (.ok (.continueLoop ((n.token? .label).map Token.text)))
  | .expressionStatement =>
    s.placed n do return .expression (← s.expr (← s.node n .expression))
  | .labeledStatement | .localVariableDeclaration | .typeDeclaration | .methodDeclaration =>
    s.single n
  | _ => s.refuse n .unsupportedStatement

end GroovyLowering.Scope
