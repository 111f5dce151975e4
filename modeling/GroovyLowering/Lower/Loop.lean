import GroovyLowering.Lower.Block

/-!
# Lowering loops with a header

The body of such a loop is lowered before its header.

A loop over a collection has a variable.  A loop with three clauses has none; its collection is the
list of the clauses, and a clause that is left out is nothing.
-/

namespace GroovyLowering.Scope

/-- Lower the first clause of a header: an expression, or a declaration.  The declaration of
several names is a list of its own. -/
def forInit (s : Scope) (n : Node) : Lowered Expr :=
  match n.node? .statement with
  | some child => do
    match (← s.localVariable child).filterMap Stmt.expression? with
    | [single] => return single.withSpan n.span
    | several => return { shape := .clauses several, span := n.span }
  | none => do return (← s.expr (← s.node n .expression)).withSpan n.span

/-- Lower the last clause of a header. -/
def forUpdate (s : Scope) (n : Node) : Lowered Expr := do
  return (← s.expr (← s.node n .expression)).withSpan n.span

/-- Lower a clause of a header, or nothing at the place of the header. -/
def forClause (s : Scope) (n : Node) (role : Role) (lower : Scope → Node → Lowered Expr) :
    Lowered Expr :=
  match n.node? role with
  | some child => lower s child
  | none => .ok (.nothing n.span)

/-- Lower the header of a loop to its variable and its collection. -/
def forControl (s : Scope) (n : Node) : Lowered (Option Parameter × Expr) :=
  match n.kind with
  | .enhancedForControl => do
    let name ← s.token n .name
    let type ← s.typeOr n name
    let collection ← s.expr (← s.node n .expression)
    return (some { name := name.text, type, span := name.span }, collection)
  | .classicForControl => do
    let init ← s.forClause n .init forInit
    let condition ← s.forClause n .condition Scope.expr
    let update ← s.forClause n .update forUpdate
    return (none, { shape := .clauses [init, condition, update], span := n.span })
  | _ => s.refuse n .unsupportedForControl

/-- Lower a loop with a header. -/
def forLoop (s : Scope) (n : Node) : Lowered Stmt := do
  let control ← s.node n .control
  let body ← s.stmt (← s.node n .body)
  let (binder, collection) ← s.forControl control
  return { shape := .forLoop binder collection body, span := n.span }

end GroovyLowering.Scope
