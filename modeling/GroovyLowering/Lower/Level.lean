import GroovyLowering.Lower.Expression
import GroovyLowering.Lower.Statement

/-!
# Levels of nesting

The scope of a level lowers statements and expressions one level further in, until no levels are
left.  A node on a level with tokens becomes the enclosing place of the levels inside it.

This is the only recursion that takes a lowering into itself.
-/

namespace GroovyLowering

/-- The scope with a number of levels left below a limit, inside a given place. -/
def Scope.level (limit : Nat) : Nat → Span → Scope
  | 0, enclosing =>
    { enclosing
      expr := fun n => .error (.nestingTooDeep limit (n.spanOr enclosing))
      stmt := fun n => .error (.nestingTooDeep limit (n.spanOr enclosing)) }
  | left + 1, enclosing =>
    { enclosing
      expr := fun n => (level limit left (n.spanOr enclosing)).expression n
      stmt := fun n => (level limit left (n.spanOr enclosing)).statement n }

/-- The scope outside of all statements and expressions. -/
def Scope.outermost (limit : Nat) : Scope := .level limit limit .fileStart

end GroovyLowering
