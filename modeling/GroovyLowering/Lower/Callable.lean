import GroovyLowering.Lower.Block
import GroovyLowering.Lower.Literal

/-!
# Lowering closures and methods

Both have parameters and a body.  A closure has parameters only if there is an arrow.

A method is public when no keyword says who may see it.
-/

namespace GroovyLowering.Scope

/-- The type of a parameter that takes any number of values: an array, at the place of the dots. -/
def variadic (n : Node) (type : TypeRef) : TypeRef :=
  match n.token? .ellipsis with
  | some dots => { type.arrayOf with span := dots.span }
  | none => type

/-- Lower a parameter. -/
def parameter (s : Scope) (n : Node) : Lowered Parameter := do
  let modifiers ← s.modifiers n
  let name ← s.token n .name
  let type := variadic n (← s.typeOr n name)
  let defaultValue ← s.expr? n .defaultValue
  return modifiers.applyToParameter { name := name.text, type, defaultValue, span := n.span }

/-! ## Closures -/

/-- Lower the parameters of a closure. -/
def closureParameters (s : Scope) (n : Node) : Lowered ClosureParameters :=
  if n.has .arrow then do return .explicit (← (n.nodes .parameter).mapM s.parameter)
  else .ok .implicit

/-- Lower a closure. -/
def closure (s : Scope) (n : Node) : Lowered Expr := do
  let parameters ← s.closureParameters n
  let code ← s.body n n.span
  return { shape := .closure parameters code, span := n.span }

/-! ## Methods -/

/-- The name of a method, which may be written as a string literal. -/
def methodName (s : Scope) (n : Node) (t : Token) : Lowered String :=
  if t.kind = .stringLiteral then s.stringValue n t else .ok t.text

/-- Lower the return type of a method.  Without one it is dynamic, at the place of the name. -/
def returnType (s : Scope) (n : Node) (name : Token) : Lowered TypeRef :=
  match n.node? .returnType with
  | none => .ok (.dynamic name.span)
  | some returns =>
    match returns.node? .type with
    | some type => s.typeRef type
    | none =>
      if (returns.token? .keyword).any fun t => t.text == "void" then
        .ok ⟨.void, returns.span⟩
      else s.refuse returns .unsupportedReturnType

/-- The exceptions of a method. -/
def exceptions (n : Node) : List TypeRef :=
  match n.node? .throws with
  | some list => (list.nodes .element).map Node.namedType
  | none => []

/-- Lower the body of a method, if there is one. -/
def methodBody (s : Scope) (n : Node) : Lowered (Option Stmt) :=
  match n.node? .body with
  | some child => do return some (← s.block child)
  | none => .ok none

/-- The flags of a method with no keyword that says who may see it. -/
def publicUnless (modifiers : ModifierSet) : UInt32 :=
  if modifiers.hasVisibility then 0 else ModifierKind.publicAccess.accessFlag

/-- Lower a method. -/
def method (s : Scope) (n : Node) : Lowered MethodDecl := do
  let modifiers ← s.modifiers n
  let nameToken ← s.token n .name
  let name ← s.methodName n nameToken
  let returnType ← s.returnType n nameToken
  let parameters ← ((← s.node n .parameters).nodes .parameter).mapM s.parameter
  let body ← s.methodBody n
  let facts := modifiers.visibilityFacts (n.node? .returnType).isSome false
  return modifiers.applyToMethod
    { name, modifiers := publicUnless modifiers, returnType, parameters,
      exceptions := exceptions n, body, annotations := [],
      syntheticPublic := facts.isSyntheticPublic, span := n.span }

end GroovyLowering.Scope
