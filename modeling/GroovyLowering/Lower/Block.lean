import GroovyLowering.Lower.Declaration

/-!
# Lowering statement lists

A statement of a list may give several statements, since a declaration gives one per name.  A label
is added to all statements that the labelled one gives, and does not count as a level of nesting.
Types cannot be declared, and methods only at the top level.

A block has the span of its node.  A statement list without braces may be left out or be empty; it
is then an empty block at a place that its construct gives.
-/

namespace GroovyLowering

/-- A statement with a label added behind its others. -/
def Stmt.withLabel (label : String) (s : Stmt) : Stmt := { s with labels := s.labels ++ [label] }

namespace Scope

/-- Lower a statement of a list, with all statements that it gives. -/
def blockStatement (s : Scope) (n : Node) : Lowered (List Stmt) :=
  match n.kind with
  | .localVariableDeclaration => s.localVariable n
  | .labeledStatement => do
    let label ← s.token n .label
    match h : n.node? .statement with
    | some child =>
      have := Node.size_lt_of_node? h
      return (← s.blockStatement child).map (Stmt.withLabel label.text)
    | none => s.refuse n (.missing .statement n.kind)
  | .typeDeclaration => s.refuse n .unsupportedTypeDeclaration
  | .methodDeclaration => s.refuse n .nestedMethod
  | _ => do return [← s.stmt n]
termination_by n.size

/-- Lower the statements of a node. -/
def statements (s : Scope) (n : Node) : Lowered (List Stmt) := do
  return (← (n.nodes .statement).mapM s.blockStatement).flatten

/-- Lower a block in braces. -/
def block (s : Scope) (n : Node) : Lowered Stmt := do
  return .block (← s.statements n) n.span

/-- Lower the statement list in the body of a construct, which has a place for an empty one. -/
def body (s : Scope) (n : Node) (fallback : Span) : Lowered Stmt :=
  match n.node? .body with
  | some list => do return .block (← s.statements list) (list.spanOr fallback)
  | none => .ok (.block [] fallback)

end Scope

end GroovyLowering
