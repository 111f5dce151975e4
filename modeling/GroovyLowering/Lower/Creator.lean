import GroovyLowering.Lower.Argument

/-!
# Lowering creators

`new` makes an object of a class, given its arguments, or an array of a type, given its sizes.
The sizes that are left open stand behind the others, as `null`.
-/

namespace GroovyLowering.Scope

/-- Lower the type behind `new`. -/
def createdType (s : Scope) (n : Node) : Lowered TypeRef :=
  match n.token? .primitive with
  | some t => .ok ⟨.primitive t.text, n.span⟩
  | none => do
    let type := (← s.node n .name).namedType
    match ← s.typeArguments? n with
    | some generics =>
      return { type with shape := type.shape.withGenerics (some generics), span := n.span }
    | none => return { type with span := n.span }

/-- Lower a creator. -/
def creator (s : Scope) (n : Node) : Lowered Expr := do
  let type ← s.createdType (← s.node n .name)
  match n.node? .arguments with
  | some child => return { shape := .newObject type (← s.arguments child), span := n.span }
  | none =>
    if n.has .dimension || n.has .emptyDimension then
      let sizes ← (n.nodes .dimension).mapM s.expr
      let openSizes := (n.tokens .emptyDimension).map fun t => Expr.null t.span
      return { shape := .newArray type (sizes ++ openSizes), span := n.span }
    else s.refuse n .unsupportedCreator

end GroovyLowering.Scope
