import GroovyLowering.Lower.Callable

/-!
# Lowering arguments, map entries and subscripts

An element of a list is an expression, which a star may spread.  Its span is the one of the
element.

The value of a map entry is lowered before its key.  A key that is a plain name stands for the
text of the name; in parentheses it stands for the variable.  An entry that is spread has its value
as its key as well.

One entry among arguments makes all of them named.  One element in a subscript stands for itself,
and several of them for a list.
-/

namespace GroovyLowering

/-- The key of an entry that is written as an expression. -/
def Expr.asKey (e : Expr) : Expr :=
  match e.asVariable? with
  | some v => if e.parenthesized then e else .symbol v.name e.span
  | none => e

namespace Scope

/-- Lower an element of a list, an argument list or a subscript. -/
def element (s : Scope) (n : Node) : Lowered Expr := do
  let e ← s.expr (← s.node n .expression)
  if n.has .spread then return { shape := .spread e, span := n.span }
  else return e.withSpan n.span

/-- Lower the elements of a node. -/
def elements (s : Scope) (n : Node) : Lowered (List Expr) := (n.nodes .element).mapM s.element

/-! ## Map entries -/

/-- Lower the label of a map entry. -/
def key (s : Scope) (label : Node) : Lowered Expr :=
  match label.token? .keyword with
  | some word => .ok (.symbol word.text label.span)
  | none => do
    let e ← s.expr (← s.node label .primary)
    return e.asKey.withSpan label.span

/-- Lower a map entry. -/
def mapEntry (s : Scope) (n : Node) : Lowered MapEntry := do
  let value ← s.expr (← s.node n .value)
  if n.has .spread then
    return { key := { shape := .spreadMap value, span := n.span }, value, span := n.span }
  else
    let key ← s.key (← s.node n .label)
    return { key, value, span := n.span }

/-- Lower the map entries of a node. -/
def mapEntries (s : Scope) (n : Node) : Lowered (List MapEntry) := (n.nodes .entry).mapM s.mapEntry

/-! ## Arguments -/

/-- Lower an argument list without parentheses. -/
def argumentList (s : Scope) (n : Node) : Lowered Arguments :=
  if n.has .entry then do return .named (← s.mapEntries n) n.span
  else do return .positional (← s.elements n) n.span

/-- Lower arguments in parentheses. -/
def arguments (s : Scope) (n : Node) : Lowered Arguments :=
  match n.node? .list with
  | some list => do return (← s.argumentList list).withSpan n.span
  | none => .ok (.positional [] n.span)

/-! ## Subscripts -/

/-- The expression that stands for the elements of a subscript. -/
def indexOf (span : Span) : List Expr → Expr
  | [⟨.spread e, place, parenthesized⟩] =>
    { shape := .list [⟨.spread e, place, parenthesized⟩] false, span }
  | [single] => single.withSpan span
  | several => { shape := .list several true, span }

/-- Lower the elements of a subscript. -/
def subscript (s : Scope) (n : Node) : Lowered Expr := do
  return indexOf n.span (← s.elements n)

end Scope

end GroovyLowering
