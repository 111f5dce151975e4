import GroovyLowering.Ast.Unit
import GroovyLowering.Error
import GroovyLowering.Tree.Extent

/-!
# What a lowering works with

Statements and expressions may nest only to a limit.  So the lowering of a construct never calls
itself: it is given a `Scope`, which holds the lowerings of the statements and expressions one
level further in.  Every lowering is then an ordinary function of a scope, and the one recursion,
over the levels, is in `Lower.Level`.

A scope also has the span of the innermost statement or expression with tokens.  A node without
tokens is reported there.
-/

namespace GroovyLowering

/-- The result of a lowering, or the first problem. -/
abbrev Lowered := Except CompileError

/-- What the lowering of a construct works with. -/
structure Scope where
  /-- The span of the innermost statement or expression with tokens. -/
  enclosing : Span
  /-- The lowering of an expression one level further in. -/
  expr : Node → Lowered Expr
  /-- The lowering of a statement one level further in. -/
  stmt : Node → Lowered Stmt

/-- The parts of a dotted name. -/
def Node.parts (n : Node) : List String := (n.tokens .part).map Token.text

/-- A dotted name. -/
def Node.dottedName (n : Node) : String := ".".intercalate n.parts

namespace Scope

/-- The span of a node, or the enclosing one if it has no tokens. -/
def spanOf (s : Scope) (n : Node) : Span := n.spanOr s.enclosing

/-- The error that a node as such is refused with. -/
def complaint (s : Scope) (n : Node) (complaint : Complaint) : CompileError :=
  .structural complaint n.text (s.spanOf n)

/-- Refuse a node. -/
def refuse {α : Type} (s : Scope) (n : Node) (complaint : Complaint) : Lowered α :=
  .error (s.complaint n complaint)

/-- A subtree that a node must have. -/
def node (s : Scope) (n : Node) (role : Role) : Lowered Node :=
  match n.node? role with
  | some child => .ok child
  | none => s.refuse n (.missing role n.kind)

/-- A token that a node must have. -/
def token (s : Scope) (n : Node) (role : Role) : Lowered Token :=
  match n.token? role with
  | some t => .ok t
  | none => s.refuse n (.missing role n.kind)

/-- A subtree lowered as an expression, if there is one. -/
def expr? (s : Scope) (n : Node) (role : Role) : Lowered (Option Expr) :=
  match n.node? role with
  | some child => do return some (← s.expr child)
  | none => .ok none

end Scope

end GroovyLowering
