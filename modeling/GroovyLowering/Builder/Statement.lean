import GroovyLowering.Builder.Declaration

/-!
# Building statements

The statements, with the state of a builder.  The steps are those of `Lower.Loop`, `Lower.Switch`,
`Lower.Try` and `Lower.Statement`, in the same order.  The span of a statement is read before
anything inside it is built.
-/

namespace GroovyLowering.Walk

open Building

/-! ## Loops with a header -/

/-- Build the first clause of a header. -/
def forInit (w : Walk) (n : Node) : Building Expr :=
  match n.node? .statement with
  | some child => do
    match (← w.localVariable child).filterMap Stmt.expression? with
    | [single] => return single.withSpan n.span
    | several => return { shape := .clauses several, span := n.span }
  | none => do return (← w.expr (← node n .expression)).withSpan n.span

/-- Build the last clause of a header. -/
def forUpdate (w : Walk) (n : Node) : Building Expr := do
  return (← w.expr (← node n .expression)).withSpan n.span

/-- Build a clause of a header, or nothing at the place of the header. -/
def forClause (w : Walk) (n : Node) (role : Role) (build : Walk → Node → Building Expr) :
    Building Expr :=
  match n.node? role with
  | some child => build w child
  | none => return .nothing n.span

/-- Build the header of a loop to its variable and its collection. -/
def forControl (w : Walk) (n : Node) : Building (Option Parameter × Expr) :=
  match n.kind with
  | .enhancedForControl => do
    let name ← token n .name
    let type ← look fun s => s.typeOr n name
    let collection ← w.expr (← node n .expression)
    return (some { name := name.text, type, span := name.span }, collection)
  | .classicForControl => do
    let init ← w.forClause n .init forInit
    let condition ← w.forClause n .condition Walk.expr
    let update ← w.forClause n .update forUpdate
    return (none, { shape := .clauses [init, condition, update], span := n.span })
  | _ => refuse n .unsupportedForControl

/-- Build a loop with a header. -/
def forLoop (w : Walk) (n : Node) : Building Stmt := do
  let control ← node n .control
  let body ← w.stmt (← node n .body)
  let (binder, collection) ← w.forControl control
  return { shape := .forLoop binder collection body, span := n.span }

/-! ## Switches -/

/-- Build a label of a group, given the statements of the group and the place of its cases. -/
def switchLabel (w : Walk) (body : Stmt) (caseSpan : Span) (isLast : Bool) (label : Node) :
    Building SwitchItem := do
  let keyword ← token label .keyword
  if keyword.text = "case" then
    let value ← w.expr (← node label .expression)
    return .case { value, body := if isLast then body else .nothing caseSpan, span := caseSpan }
  else if keyword.text = "default" then return .fallback body
  else refuse label .unsupportedSwitchLabel

/-- Build the labels of a group in order. -/
def switchLabels (w : Walk) (body : Stmt) (caseSpan : Span) :
    List Node → Building (List SwitchItem)
  | [] => return []
  | label :: rest => do
    let item ← w.switchLabel body caseSpan rest.isEmpty label
    return item :: (← w.switchLabels body caseSpan rest)

/-- Build a group. -/
def switchGroup (w : Walk) (group : Node) : Building (List SwitchItem) :=
  match group.nodes .label with
  | [] => refuse group .groupWithoutLabel
  | first :: rest => do
    let caseSpan := (← token first .keyword).span
    let body ← w.body group group.span
    w.switchLabels body caseSpan (first :: rest)

/-- Build a switch. -/
def switch (w : Walk) (n : Node) : Building Stmt := do
  let subject ← w.expr (← node n .condition)
  let items := (← (n.nodes .group).mapM w.switchGroup).flatten
  let otherwise ← look fun _ => Scope.switchDefault n.span items
  return { shape := .switch subject (items.filterMap SwitchItem.case?) otherwise, span := n.span }

/-! ## Try statements -/

/-- Build a catch clause, one clause per type. -/
def catchClause (w : Walk) (n : Node) : Building (List CatchClause) := do
  let name ← token n .name
  let body ← w.block (← node n .body)
  return (Scope.catchTypes n name).map fun type =>
    { parameter := { name := name.text, type, span := name.span }, body, span := body.span }

/-- Build the block at the end, or nothing at a given place. -/
def atEnd (w : Walk) (n : Node) (fallback : Span) : Building Stmt :=
  match n.node? .finallyClause with
  | some child => do
    return .block [← w.block (← node child .body)] child.span
  | none => return .nothing fallback

/-- Build a try statement. -/
def tryCatch (w : Walk) (n : Node) : Building Stmt := do
  let body ← w.block (← node n .body)
  let catches := (← (n.nodes .catchClause).mapM w.catchClause).flatten
  let atEnd ← w.atEnd n n.span
  return { shape := .tryCatch body catches atEnd, span := n.span }

/-! ## Statements -/

/-- Build a condition to its truth value. -/
def condition (w : Walk) (n : Node) : Building Expr := do
  let child ← node n .condition
  return .truth (← w.expr child) child.span

/-- Build an assertion. -/
def assertion (w : Walk) (n : Node) : Building StmtShape := do
  let condition ← w.condition n
  return .assertion condition (← w.expr? n .message)

/-- Build the other branch of a choice, or nothing at the place of the choice. -/
def elseBranch (w : Walk) (span : Span) (n : Node) : Building Stmt :=
  match n.node? .elseBranch with
  | some child => w.stmt child
  | none => return .nothing span

/-- Build a choice between two statements. -/
def choice (w : Walk) (span : Span) (n : Node) : Building StmtShape := do
  let condition ← w.condition n
  let yes ← w.stmt (← node n .thenBranch)
  return .conditional condition yes (← w.elseBranch span n)

/-- Build a loop with a condition. -/
def whileLoop (w : Walk) (n : Node) : Building StmtShape := do
  let condition ← w.condition n
  return .whileLoop condition (← w.stmt (← node n .body))

/-- Build a statement that holds a lock. -/
def synchronized (w : Walk) (n : Node) : Building StmtShape := do
  let lock ← w.expr (← node n .condition)
  return .synchronized lock (← w.stmt (← node n .body))

/-- Build a return statement. -/
def returnValue (w : Walk) (span : Span) (n : Node) : Building StmtShape := do
  return .returnValue ((← w.expr? n .expression).getD (.null span))

/-- A statement with a given span. -/
def placed (span : Span) (shape : Building StmtShape) : Building Stmt := do
  return { shape := ← shape, span }

/-- Build a statement that may give several. -/
def single (w : Walk) (span : Span) (n : Node) : Building Stmt := do
  match ← w.blockStatement n with
  | [statement] => return statement
  | several => return .block several span

/-- Build a statement. -/
def statement (w : Walk) (n : Node) : Building Stmt := do
  let span ← spanOf n
  match n.kind with
  | .block => w.block n
  | .assertStatement => placed span (w.assertion n)
  | .ifStatement => placed span (w.choice span n)
  | .forStatement => w.forLoop n
  | .whileStatement => placed span (w.whileLoop n)
  | .tryStatement => w.tryCatch n
  | .switchStatement => w.switch n
  | .synchronizedStatement => placed span (w.synchronized n)
  | .returnStatement => placed span (w.returnValue span n)
  | .throwStatement =>
    placed span do return .throwValue (← w.expr (← node n .expression))
  | .breakStatement => placed span do return .breakLoop ((n.token? .label).map Token.text)
  | .continueStatement => placed span do return .continueLoop ((n.token? .label).map Token.text)
  | .expressionStatement =>
    placed span do return .expression (← w.expr (← node n .expression))
  | .labeledStatement | .localVariableDeclaration | .typeDeclaration | .methodDeclaration =>
    w.single span n
  | _ => refuse n .unsupportedStatement

end GroovyLowering.Walk
