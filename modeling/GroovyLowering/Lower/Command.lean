import GroovyLowering.Lower.Path

/-!
# Lowering command expressions

A command is a call without parentheses: a head, its arguments and further words.  The head is
lowered as a call.  Every further word names a method of the result if it has arguments, and is a
property of it otherwise, with path elements applied to it if there are any.
-/

namespace GroovyLowering

/-- The text of an expression as a name. -/
def Expr.asName (e : Expr) : Expr :=
  match e.asVariable? with
  | some v => .symbol v.name e.span
  | none => .symbol e.text e.span

namespace Scope

/-- The head of a command.  A base that is a call already is the head as it is, and takes no more
arguments. -/
def commandHead (s : Scope) (n : Node) (base : Expr) (arguments : Option Arguments) :
    Lowered Expr :=
  if base.isCall then
    match arguments with
    | some _ => s.refuse n .argumentsAfterCall
    | none => .ok base
  else
    let arguments := arguments.getD (.positional [] base.span)
    match base.shape with
    | .property access | .field access => .ok (access.call arguments arguments.span)
    | .binary .. => .ok (base.callValue arguments arguments.span)
    | _ => .ok (base.callOnThis arguments arguments.span)

/-- Lower a further word of a command, given what is lowered in front of it. -/
def commandArgument (s : Scope) (receiver : Expr) (n : Node) : Lowered Expr := do
  let primary ← s.expr (← s.node n .primary)
  match n.node? .arguments with
  | some list =>
    if receiver.isAccess then s.refuse n .unsupportedCommandArgument
    else
      let arguments ← s.argumentList list
      return { shape := .methodCall { object := receiver, method := primary.asName, arguments }
               span := n.span }
  | none =>
    if n.has .element then
      let property : Expr :=
        { shape := .property { object := receiver, member := primary.asName }
          span := primary.span }
      return (← s.pathElements property (n.nodes .element)).withSpan n.span
    else
      return { shape := .property { object := receiver, member := primary.asMethod }
               span := primary.span }

/-- Lower a command. -/
def command (s : Scope) (n : Node) : Lowered Expr := do
  let base ← s.expr (← s.node n .base)
  let arguments ←
    match n.node? .arguments with
    | some list => do pure (some (← s.argumentList list))
    | none => pure none
  let head ← s.commandHead n base arguments
  return (← (n.nodes .commandArgument).foldlM s.commandArgument head).withSpan n.span

end Scope

end GroovyLowering
