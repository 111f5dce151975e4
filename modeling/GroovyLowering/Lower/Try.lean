import GroovyLowering.Lower.Block

/-!
# Lowering try statements

A catch clause may name several types.  Each of them gets a clause of its own with the same block,
and a clause without types is one of a dynamic type.

The block at the end is wrapped in one that has the span of its keyword as well.
-/

namespace GroovyLowering.Scope

/-- The types of a catch clause, given the token of its name. -/
def catchTypes (n : Node) (name : Token) : List TypeRef :=
  match n.node? .catchType with
  | none => [.dynamic name.span]
  | some list =>
    match (list.nodes .element).map Node.namedType with
    | [] => [.dynamic name.span]
    | types => types

/-- Lower a catch clause, one clause per type. -/
def catchClause (s : Scope) (n : Node) : Lowered (List CatchClause) := do
  let name ← s.token n .name
  let body ← s.block (← s.node n .body)
  return (catchTypes n name).map fun type =>
    { parameter := { name := name.text, type, span := name.span }, body, span := body.span }

/-- Lower the block at the end, or nothing at a given place. -/
def atEnd (s : Scope) (n : Node) (fallback : Span) : Lowered Stmt :=
  match n.node? .finallyClause with
  | some child => do
    return .block [← s.block (← s.node child .body)] child.span
  | none => .ok (.nothing fallback)

/-- Lower a try statement. -/
def tryCatch (s : Scope) (n : Node) : Lowered Stmt := do
  let body ← s.block (← s.node n .body)
  let catches := (← (n.nodes .catchClause).mapM s.catchClause).flatten
  let atEnd ← s.atEnd n n.span
  return { shape := .tryCatch body catches atEnd, span := n.span }

end GroovyLowering.Scope
