import GroovyLowering.Lower.Level
import GroovyLowering.Options

/-!
# The state of a builder

A builder lowers one tree after another.  Between its steps it remembers how deep in statements and
expressions it is, and the span of the innermost of them with tokens.  A failure does not undo
anything: the next step starts from the state that the failed one has left.

`Building.nested` is the only step that changes the state.  The steps that `Building.look` makes
read the enclosing span and cannot go any deeper.

`Walk` is for builders what `Scope` is without a state: the lowering of a construct is given the
lowerings of the statements and expressions inside it.
-/

namespace GroovyLowering

/-- A builder. -/
structure Builder where
  /-- What it is asked to do. -/
  options : LowerOptions
  /-- How many statements and expressions it is in. -/
  depth : Nat := 0
  /-- The span of the innermost statement or expression with tokens. -/
  enclosing : Span := .fileStart

/-- The scope that a builder has without going deeper. -/
def Builder.view (b : Builder) : Scope := .level b.options.maxDepth 0 b.enclosing

/-- A step of a builder: a result or a failure, with the state that it leaves. -/
abbrev Building := ExceptT CompileError (StateM Builder)

namespace Building

variable {α : Type}

/-- A step that only reads. -/
def look (f : Scope → Lowered α) : Building α := fun b => (f b.view, b)

/-- Fail. -/
def fail (e : CompileError) : Building α := look fun _ => .error e

/-- The span of a node, or the enclosing one if it has no tokens. -/
def spanOf (n : Node) : Building Span := look fun s => .ok (s.spanOf n)

/-- Refuse a node. -/
def refuse (n : Node) (complaint : Complaint) : Building α := look fun s => s.refuse n complaint

/-- A subtree that a node must have. -/
def node (n : Node) (role : Role) : Building Node := look fun s => s.node n role

/-- A token that a node must have. -/
def token (n : Node) (role : Role) : Building Token := look fun s => s.token n role

/-- Refuse to go deeper. -/
def tooDeep (n : Node) : Building α := fun b =>
  (.error (.nestingTooDeep b.options.maxDepth (n.spanOr b.enclosing)), b)

/-- Do what is inside of a statement or an expression, one level deeper.  Depth and enclosing span
are put back whether that succeeds or not. -/
def nested (n : Node) (inner : Building α) : Building α := fun b =>
  if b.options.maxDepth ≤ b.depth then tooDeep n b
  else
    let (result, after) :=
      inner { b with depth := b.depth + 1, enclosing := n.spanOr b.enclosing }
    (result, { after with depth := after.depth - 1, enclosing := b.enclosing })

end Building

/-- The lowerings of the statements and expressions inside a construct. -/
structure Walk where
  /-- The lowering of an expression. -/
  expr : Node → Building Expr
  /-- The lowering of a statement. -/
  stmt : Node → Building Stmt

/-- A subtree lowered as an expression, if there is one. -/
def Walk.expr? (w : Walk) (n : Node) (role : Role) : Building (Option Expr) :=
  match n.node? role with
  | some child => do return some (← w.expr child)
  | none => return none

end GroovyLowering
