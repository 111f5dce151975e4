import GroovyLowering.Builder.Declaration

/-!
# Building expressions

The expressions, with the state of a builder.  The steps are those of `Lower.Argument`,
`Lower.Creator`, `Lower.Path`, `Lower.Command`, `Lower.GString`, `Lower.Operator` and
`Lower.Expression`, in the same order.  The span of an expression is read before anything inside it
is built.
-/

namespace GroovyLowering.Walk

open Building

/-! ## Arguments -/

/-- Build an element of a list, an argument list or a subscript. -/
def element (w : Walk) (n : Node) : Building Expr := do
  let e ← w.expr (← node n .expression)
  if n.has .spread then return { shape := .spread e, span := n.span }
  else return e.withSpan n.span

/-- Build the elements of a node. -/
def elements (w : Walk) (n : Node) : Building (List Expr) := (n.nodes .element).mapM w.element

/-- Build the label of a map entry. -/
def key (w : Walk) (label : Node) : Building Expr :=
  match label.token? .keyword with
  | some word => return .symbol word.text label.span
  | none => do
    let e ← w.expr (← node label .primary)
    return e.asKey.withSpan label.span

/-- Build a map entry. -/
def mapEntry (w : Walk) (n : Node) : Building MapEntry := do
  let value ← w.expr (← node n .value)
  if n.has .spread then
    return { key := { shape := .spreadMap value, span := n.span }, value, span := n.span }
  else
    let key ← w.key (← node n .label)
    return { key, value, span := n.span }

/-- Build the map entries of a node. -/
def mapEntries (w : Walk) (n : Node) : Building (List MapEntry) := (n.nodes .entry).mapM w.mapEntry

/-- Build an argument list without parentheses. -/
def argumentList (w : Walk) (n : Node) : Building Arguments :=
  if n.has .entry then do return .named (← w.mapEntries n) n.span
  else do return .positional (← w.elements n) n.span

/-- Build arguments in parentheses. -/
def arguments (w : Walk) (n : Node) : Building Arguments :=
  match n.node? .list with
  | some list => do return (← w.argumentList list).withSpan n.span
  | none => return .positional [] n.span

/-- Build the elements of a subscript. -/
def subscript (w : Walk) (n : Node) : Building Expr := do
  return Scope.indexOf n.span (← w.elements n)

/-- Build a creator. -/
def creator (w : Walk) (n : Node) : Building Expr := do
  let name ← node n .name
  let type ← look fun s => s.createdType name
  match n.node? .arguments with
  | some child => return { shape := .newObject type (← w.arguments child), span := n.span }
  | none =>
    if n.has .dimension || n.has .emptyDimension then
      let sizes ← (n.nodes .dimension).mapM w.expr
      let openSizes := (n.tokens .emptyDimension).map fun t => Expr.null t.span
      return { shape := .newArray type (sizes ++ openSizes), span := n.span }
    else refuse n .unsupportedCreator

/-! ## Paths -/

/-- Build the name behind a member operator. -/
def namePart (w : Walk) (n : Node) : Building Expr :=
  match (n.token? .identifier).or (n.token? .keyword) with
  | some t => return .symbol t.text n.span
  | none =>
    match n.token? .literal with
    | some t => do return .constant (.stringLiteral (← look fun s => s.stringValue n t)) n.span
    | none =>
      match n.node? .dynamic with
      | some child => do return (← w.expr child).withSpan n.span
      | none => refuse n .unsupportedNamePart

/-- Build a member of a receiver. -/
def member (w : Walk) (receiver : Expr) (n namePart : Node) : Building Expr := do
  let name ← w.namePart namePart
  let generics ← look fun s => s.typeArguments? n
  let op := (n.token? .operator).map Token.text
  match Scope.memberShape? receiver name generics (n.has .atSign) op with
  | some shape => return { shape, span := n.span }
  | none => refuse n .unsupportedPathElement

/-- Build an element of a path, given what is built in front of it. -/
def pathElement (w : Walk) (receiver : Expr) (n : Node) : Building Expr :=
  match n.node? .namePart with
  | some child => w.member receiver n child
  | none =>
    match n.node? .index with
    | some child => do
      let index ← w.subscript child
      return { shape := .binary receiver (Scope.subscriptOp n) index, span := n.span }
    | none =>
      match n.node? .arguments with
      | some child => do
        let arguments ← w.arguments child
        look fun _ => receiver.applyArguments arguments n.span
      | none =>
        match n.node? .closure with
        | some child => do return receiver.applyClosure (← w.closure child) n.span
        | none => refuse n .unsupportedPathElement

/-- Build elements of a path, given what is built in front of them. -/
def pathElements (w : Walk) (receiver : Expr) (elements : List Node) : Building Expr :=
  elements.foldlM w.pathElement receiver

/-- Build a path. -/
def path (w : Walk) (n : Node) : Building Expr := do
  let primary ← w.expr (← node n .primary)
  return (← w.pathElements primary (n.nodes .element)).withSpan n.span

/-! ## Commands -/

/-- Build the arguments of a command, if there are any. -/
def argumentList? (w : Walk) (n : Node) : Building (Option Arguments) :=
  match n.node? .arguments with
  | some list => do return some (← w.argumentList list)
  | none => return none

/-- Build a further word of a command, given what is built in front of it. -/
def commandArgument (w : Walk) (receiver : Expr) (n : Node) : Building Expr := do
  let primary ← w.expr (← node n .primary)
  match n.node? .arguments with
  | some list =>
    if receiver.isAccess then refuse n .unsupportedCommandArgument
    else
      let arguments ← w.argumentList list
      return { shape := .methodCall { object := receiver, method := primary.asName, arguments }
               span := n.span }
  | none =>
    if n.has .element then
      let property : Expr :=
        { shape := .property { object := receiver, member := primary.asName }
          span := primary.span }
      return (← w.pathElements property (n.nodes .element)).withSpan n.span
    else
      return { shape := .property { object := receiver, member := primary.asMethod }
               span := primary.span }

/-- Build a command. -/
def command (w : Walk) (n : Node) : Building Expr := do
  let base ← w.expr (← node n .base)
  let arguments ← w.argumentList? n
  let head ← look fun s => s.commandHead n base arguments
  return (← (n.nodes .commandArgument).foldlM w.commandArgument head).withSpan n.span

/-! ## Interpolated strings -/

/-- Build a value of an interpolated string. -/
def gstringValue (w : Walk) (n : Node) : Building Expr :=
  match n.node? .path with
  | some path => do return (← look fun s => s.gstringPath path).withSpan n.span
  | none =>
    match n.node? .expression with
    | some child => do return (← w.expr child).withSpan n.span
    | none =>
      match n.node? .closure with
      | some child => do
        let closure ← w.closure child
        if child.has .arrow then return closure.withSpan n.span
        else
          return { shape := .methodCall
                    { object := closure, method := .symbol callMethod n.span,
                      arguments := .positional [] n.span }
                   span := n.span }
      | none => return .null n.span

/-- Build an interpolated string. -/
def gstring (w : Walk) (n : Node) : Building Expr := do
  let first ← token n .opening
  let last ← token n .closing
  let mode := Literal.EscapeMode.of first.text.toList
  let strings := Scope.segment (Literal.Segment.opening mode) first ::
    ((n.tokens .part).map (Scope.segment (Literal.Segment.part mode)) ++
      [Scope.segment (Literal.Segment.closing mode) last])
  let values ← (n.nodes .value).mapM w.gstringValue
  return { shape := .gstring (verbatimText strings values) strings values, span := n.span }

/-! ## Operators -/

/-- Build a step behind its operand. -/
def stepAfter (w : Walk) (span : Span) (n : Node) : Building Expr := do
  let operand ← w.expr (← node n .operand)
  let op ← token n .operator
  match Step.ofText? op.text with
  | some step => return { shape := .stepAfter operand step, span }
  | none => refuse n .unsupportedStep

/-- Build a sign or a step in front of its operand. -/
def unary (w : Walk) (n : Node) : Building Expr := do
  let op ← token n .operator
  let operandNode ← node n .operand
  let operand ← w.expr operandNode
  if op.text = "+" then
    match operand.foldable? with
    | some _ => return operand.withSpan n.span
    | none => return { shape := .plus operand, span := n.span }
  else if op.text = "-" then
    match operand.foldable? with
    | some c => look fun s => s.negateConstant n operandNode c
    | none => return { shape := .minus operand, span := n.span }
  else
    match Step.ofText? op.text with
    | some step => return { shape := .stepBefore step operand, span := n.span }
    | none => refuse n .unsupportedUnary

/-- Build a negation. -/
def negation (w : Walk) (span : Span) (n : Node) : Building Expr := do
  let operand ← w.expr (← node n .operand)
  let op ← token n .operator
  if op.text = "!" then return { shape := .not operand, span }
  else if op.text = "~" then return { shape := .bitNot operand, span }
  else refuse n .unsupportedUnary

/-- Build an operator between two operands. -/
def binary (w : Walk) (n : Node) : Building Expr := do
  let left ← w.expr (← node n .left)
  let right ← w.expr (← node n .right)
  match Scope.binaryShape? left (String.join ((n.tokens .operator).map Token.text)) right with
  | some shape => return { shape, span := n.span }
  | none => refuse n .unsupportedBinary

/-- Build an assignment. -/
def assignment (w : Walk) (n : Node) : Building Expr := do
  let leftNode ← node n .left
  let left ← w.expr leftNode
  if left.isAssignable then
    let op ← token n .operator
    match (BinaryOp.ofText? op.text).filter BinaryOp.isAssignment with
    | some op =>
      let right ← w.expr (← node n .right)
      return { shape := .binary left op right, span := n.span }
    | none => refuse n .unsupportedAssignment
  else fail (.invalid .assignedToNonVariable leftNode.span)

/-- Build a cast. -/
def cast (w : Walk) (span : Span) (n : Node) : Building Expr := do
  let typeNode ← node n .type
  let type ← look fun s => s.typeRef typeNode
  let operand ← w.expr (← node n .operand)
  return { shape := .cast type operand false, span }

/-- Build a type test or a coercion. -/
def typeTest (w : Walk) (span : Span) (n : Node) : Building Expr := do
  let left ← w.expr (← node n .left)
  let typeNode ← node n .type
  let type ← look fun s => s.typeRef typeNode
  let op ← token n .operator
  if op.text = "as" then return { shape := .cast type left true, span }
  else if op.text = "instanceof" then
    let right : Expr := { shape := .classValue type, span := typeNode.span }
    return { shape := .binary left .instanceOf right, span }
  else refuse n .unsupportedTypeTest

/-- Build a choice. -/
def conditional (w : Walk) (span : Span) (n : Node) : Building Expr := do
  let conditionNode ← node n .condition
  let condition ← w.expr conditionNode
  let no ← w.expr (← node n .elseBranch)
  if (n.token? .operator).any fun t => t.text == "?:" then
    return { shape := .elvis condition no, span }
  else
    let yes ← w.expr (← node n .thenBranch)
    return { shape := .ternary (.truth condition conditionNode.span) yes no, span }

/-! ## Expressions -/

/-- Build an expression in parentheses. -/
def parenthesized (w : Walk) (n : Node) : Building Expr := do
  let inner ← w.expr (← node n .expression)
  return { inner with span := n.span, parenthesized := true }

/-- Build a list. -/
def list (w : Walk) (span : Span) (n : Node) : Building Expr := do
  return { shape := .list (← w.elements n) false, span }

/-- Build a map. -/
def map (w : Walk) (span : Span) (n : Node) : Building Expr := do
  return { shape := .map (← w.mapEntries n), span }

/-- Build a name, given the role of its token. -/
def nameOf (span : Span) (n : Node) (role : Role) : Building Expr := do
  return .named (← token n role).text span

/-- Build an expression. -/
def expression (w : Walk) (n : Node) : Building Expr := do
  let span ← spanOf n
  match n.kind with
  | .path => w.path n
  | .commandExpression => w.command n
  | .expressionListElement => w.element n
  | .postfixExpression => w.stepAfter span n
  | .unaryAdd => w.unary n
  | .unaryNot => w.negation span n
  | .cast => w.cast span n
  | .binary => w.binary n
  | .typeTest => w.typeTest span n
  | .conditional => w.conditional span n
  | .assignment => w.assignment n
  | .identifier => nameOf span n .identifier
  | .literal => look fun s => s.literal n
  | .gstring => w.gstring n
  | .creator => w.creator n
  | .thisReference => return .self span
  | .superReference => return .named "super" span
  | .parExpression => w.parenthesized n
  | .list => w.list span n
  | .map => w.map span n
  | .builtInType => nameOf span n .primitive
  | .closure => w.closure n
  | _ => refuse n .unsupportedExpression

end GroovyLowering.Walk
