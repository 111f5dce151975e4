import GroovyLowering.Lower.Annotation

/-!
# Lowering local variable declarations

A declaration gives one statement per declared name.  All of them have the modifiers and the type
of the construct.

The only name of a construct takes its whole span.  Of several names the first takes the modifiers
and the type in front of it as well, and every other one has the span of its own declarator.

The names of a tuple have the span of the construct and its initializer together, and each has its
own type.  A tuple needs `def` among its modifiers.
-/

namespace GroovyLowering.Scope

/-- Lower an initializer: an expression, or an array of initializers. -/
def initializer (s : Scope) (n : Node) : Lowered Expr :=
  match ha : n.node? .array with
  | some array => do
    let elements ← (array.nodes .element).attach.mapM fun ⟨child, h⟩ =>
      have := Nat.lt_trans (Node.size_lt_of_mem_nodes h) (Node.size_lt_of_node? ha)
      s.initializer child
    return { shape := .list elements false, span := n.span }
  | none => do
    let e ← s.expr (← s.node n .expression)
    return e.withSpan n.span
termination_by n.size

/-- Lower the initializer of a construct, or nothing at a given place if there is none. -/
def initializerOr (s : Scope) (n : Node) (fallback : Span) : Lowered Expr :=
  match n.node? .initializer with
  | some child => s.initializer child
  | none => .ok (.nothing fallback)

/-- The statement of a declaration with modifiers. -/
def declare (modifiers : ModifierSet) (declaration : Declaration) (span : Span) : Stmt :=
  { shape := .expression
      { shape := .declaration (modifiers.applyToDeclaration declaration), span }
    span }

/-- Lower one declarator of a construct, as a statement with a given span. -/
def declarator (s : Scope) (n : Node) (modifiers : ModifierSet) (span : Span) (d : Node) :
    Lowered Stmt := do
  let name ← s.token d .name
  let type ← s.typeOr n name
  let initializer ← s.initializerOr d d.span
  return declare modifiers
    { declared := { name := name.text, type }, nameSpan := name.span, initializer, slot := none,
      annotations := [] } span

/-- Lower the declarators of a construct. -/
def declarators (s : Scope) (n : Node) (modifiers : ModifierSet) : List Node → Lowered (List Stmt)
  | [] => s.refuse n .unsupportedDeclaration
  | [d] => do return [← s.declarator n modifiers n.span d]
  | d :: others => do
    let first ← s.declarator n modifiers (d.span.withStartOf n.span) d
    let others ← others.mapM fun d => s.declarator n modifiers d.span d
    return first :: others

/-- Lower one name of a tuple, given its slot and the value of the tuple. -/
def tupleName (s : Scope) (n : Node) (modifiers : ModifierSet) (initializer : Expr)
    (slot : TupleSlot) (pair : Node) : Lowered Stmt := do
  let name ← s.token pair .name
  let type ← s.typeOr pair name
  return declare modifiers
    { declared := { name := name.text, type }, nameSpan := pair.span, initializer,
      slot := some slot, annotations := [] } n.span

/-- Lower a tuple declaration. -/
def tuple (s : Scope) (n : Node) (modifiers : ModifierSet) (pairs : List Node) :
    Lowered (List Stmt) :=
  if modifiers.contains .untyped then do
    let initializer ← s.initializerOr n n.span
    pairs.zipIdx.mapM fun (pair, index) =>
      s.tupleName n modifiers initializer ⟨index, pairs.length⟩ pair
  else s.refuse n .tupleWithoutDef

/-- Lower a local variable declaration, one statement per name. -/
def localVariable (s : Scope) (n : Node) : Lowered (List Stmt) := do
  let modifiers ← s.modifiers n
  match n.node? .tuple with
  | some pairs => s.tuple n modifiers (pairs.nodes .pair)
  | none => s.declarators n modifiers (n.nodes .declarator)

end GroovyLowering.Scope
