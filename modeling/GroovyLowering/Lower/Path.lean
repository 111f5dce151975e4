import GroovyLowering.Ast.Text
import GroovyLowering.Lower.Argument

/-!
# Lowering paths

A path is folded from left to right.  Each element takes what is lowered so far as its receiver: a
member is taken of it, a subscript is applied to it, or it is called.

How a call attaches depends on the receiver.

* A property becomes the method of the call, and its type arguments and safety go with it.
* A field is called as a value.  It is no longer taken of every element.
* A closure and the result of a call are called as values.
* A variable, a string literal and an interpolated string name a method of `this`, but `void` is
  called as a value and the name of a primitive type cannot be called at all.
* Everything else is called as a value.

A closure behind a call is one more argument.  Named arguments then become a map in front of it.
Behind anything else a closure makes a call by rules of its own: of a property or a field the
member is the method, a number is called as a value, and every other receiver names a method of
`this`.
-/

namespace GroovyLowering

/-- The name of the method that calls a value. -/
def callMethod : String := "call"

/-- The primitive types, whose names cannot be called. -/
def primitiveTypes : List String :=
  ["boolean", "byte", "char", "short", "int", "long", "float", "double"]

/-! ## Calls -/

/-- A call of a value. -/
def Expr.callValue (object : Expr) (arguments : Arguments) (span : Span) : Expr :=
  { shape := .methodCall { object, method := .symbol callMethod object.span, arguments }, span }

/-- The method that an expression names: a variable stands for its name. -/
def Expr.asMethod (e : Expr) : Expr :=
  match e.asVariable? with
  | some v => .symbol v.name e.span
  | none => e

/-- A call of a method of `this`. -/
def Expr.callOnThis (name : Expr) (arguments : Arguments) (span : Span) : Expr :=
  { shape := .methodCall
      { object := .self name.asMethod.span, method := name.asMethod, arguments,
        implicitThis := true }
    span }

/-- A call of a member of an object, with the safety and the type arguments of the access. -/
def Access.call (access : Access) (arguments : Arguments) (span : Span) : Expr :=
  { shape := .methodCall
      { object := access.object, method := access.member, arguments,
        safe := access.safe && !access.spreadSafe, spreadSafe := access.spreadSafe,
        generics := access.generics }
    span }

/-- A call of what a path has built so far. -/
def Expr.applyArguments (receiver : Expr) (arguments : Arguments) (span : Span) : Lowered Expr :=
  match receiver.shape with
  | .field access =>
    .ok (Expr.callValue { receiver with shape := .field { access with spreadSafe := false } }
      arguments span)
  | .property access => .ok (access.call arguments span)
  | .closure .. | .methodCall _ => .ok (receiver.callValue arguments span)
  | .name v =>
    if v.name = "void" then .ok ((Expr.symbol "void" receiver.span).callValue arguments span)
    else if v.name ∈ primitiveTypes then
      .error (.invalid (.primitiveCalled v.name) receiver.span)
    else .ok (receiver.callOnThis arguments span)
  | .gstring .. => .ok (receiver.callOnThis arguments span)
  | .constant c =>
    if c.tag = .string then .ok (receiver.callOnThis arguments span)
    else .ok (receiver.callValue arguments span)
  | _ => .ok (receiver.callValue arguments span)

/-- Arguments with a closure behind them. -/
def Arguments.withClosure (closure : Expr) : Arguments → Arguments
  | .positional args span => .positional (args ++ [closure]) span
  | .named entries span => .positional [{ shape := .map entries, span }, closure] span

/-- A call of what a path has built so far with a closure. -/
def Expr.applyClosure (receiver closure : Expr) (span : Span) : Expr :=
  let alone : Arguments := .positional [closure] closure.span
  match receiver.shape with
  | .methodCall call =>
    { shape := .methodCall { call with arguments := call.arguments.withClosure closure }, span }
  | .property access | .field access => access.call alone span
  | .constant c =>
    if c.tag = .numeric then receiver.callValue alone span else receiver.callOnThis alone span
  | _ => receiver.callOnThis alone span

namespace Scope

/-! ## Members -/

/-- Lower the name behind a member operator. -/
def namePart (s : Scope) (n : Node) : Lowered Expr :=
  match (n.token? .identifier).or (n.token? .keyword) with
  | some t => .ok (.symbol t.text n.span)
  | none =>
    match n.token? .literal with
    | some t => do return .constant (.stringLiteral (← s.stringValue n t)) n.span
    | none =>
      match n.node? .dynamic with
      | some child => do return (← s.expr child).withSpan n.span
      | none => s.refuse n .unsupportedNamePart

/-- What an operator and an at sign make of an object and a member. -/
def memberShape? (object member : Expr) (generics : Option (List TypeArgument)) (isField : Bool) :
    Option String → Option ExprShape
  | some ".&" => some (.methodPointer object member)
  | some "." =>
    if isField then some (.field { object, member })
    else some (.property { object, member, generics })
  | some "?." =>
    if isField then some (.field { object, member, safe := true })
    else some (.property { object, member, safe := true, generics })
  | some "*." =>
    if isField then some (.field { object, member, safe := true, spreadSafe := true })
    else some (.property { object, member, safe := true, spreadSafe := true, generics })
  | _ => none

/-- Lower a member of a receiver. -/
def member (s : Scope) (receiver : Expr) (n namePart : Node) : Lowered Expr := do
  let name ← s.namePart namePart
  let generics ← s.typeArguments? n
  let op := (n.token? .operator).map Token.text
  match memberShape? receiver name generics (n.has .atSign) op with
  | some shape => return { shape, span := n.span }
  | none => s.refuse n .unsupportedPathElement

/-! ## Elements -/

/-- The operator of the subscript that a bracket opens. -/
def subscriptOp (n : Node) : BinaryOp :=
  if (n.token? .operator).any fun t => t.text == "?[" then .safeIndex else .index

/-- Lower an element of a path, given what is lowered in front of it. -/
def pathElement (s : Scope) (receiver : Expr) (n : Node) : Lowered Expr :=
  match n.node? .namePart with
  | some child => s.member receiver n child
  | none =>
    match n.node? .index with
    | some child => do
      return { shape := .binary receiver (subscriptOp n) (← s.subscript child), span := n.span }
    | none =>
      match n.node? .arguments with
      | some child => do receiver.applyArguments (← s.arguments child) n.span
      | none =>
        match n.node? .closure with
        | some child => do return receiver.applyClosure (← s.closure child) n.span
        | none => s.refuse n .unsupportedPathElement

/-- Lower elements of a path, given what is lowered in front of them. -/
def pathElements (s : Scope) (receiver : Expr) (elements : List Node) : Lowered Expr :=
  elements.foldlM s.pathElement receiver

/-- Lower a path. -/
def path (s : Scope) (n : Node) : Lowered Expr := do
  let primary ← s.expr (← s.node n .primary)
  return (← s.pathElements primary (n.nodes .element)).withSpan n.span

end Scope

end GroovyLowering
