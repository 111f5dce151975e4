import GroovyLowering.Lower.Scope

/-!
# Lowering types

A type is a class or a primitive type with dimensions behind it, and each dimension makes an array
of what is in front of it.  Type arguments are types again.  Where there are dimensions, the type
arguments of the component are dropped.
-/

namespace GroovyLowering

/-- A type with a number of dimensions behind it. -/
def TypeRef.withDimensions (type : TypeRef) : Nat → TypeRef
  | 0 => type
  | n + 1 => (type.withDimensions n).arrayOf

/-- The type that a qualified class name writes, without type arguments. -/
def Node.namedType (n : Node) : TypeRef := .named n.dottedName n.span

namespace Scope

mutual

/-- Lower a type. -/
def typeRef (s : Scope) (n : Node) : Lowered TypeRef :=
  let dimensions := (n.tokens .dimension).length
  match h : n.node? .classType with
  | some child => do
    have := Node.size_lt_of_node? h
    let type ← s.classType child
    let type :=
      if 0 < dimensions then { type with shape := type.shape.withGenerics none } else type
    return { type.withDimensions dimensions with span := n.span }
  | none =>
    match n.token? .primitive with
    | some t =>
      .ok { (⟨.primitive t.text, t.span⟩ : TypeRef).withDimensions dimensions with span := n.span }
    | none => s.refuse n .unsupportedType
termination_by n.size

/-- Lower a class with its type arguments. -/
def classType (s : Scope) (n : Node) : Lowered TypeRef := do
  let type := (← s.node n .name).namedType
  match h : n.node? .typeArguments with
  | some child =>
    have := Node.size_lt_of_node? h
    let generics ← s.typeArguments child
    return { type with shape := type.shape.withGenerics (some generics), span := n.span }
  | none => return { type with span := n.span }
termination_by n.size

/-- Lower a list of type arguments.  Without any it is a diamond. -/
def typeArguments (s : Scope) (n : Node) : Lowered (List TypeArgument) :=
  (n.nodes .argument).attach.mapM fun ⟨child, h⟩ =>
    have := Node.size_lt_of_mem_nodes h
    s.typeArgument child
termination_by n.size

/-- Lower a type argument. -/
def typeArgument (s : Scope) (n : Node) : Lowered TypeArgument :=
  if n.has .question then do
    let bound ←
      match h : n.node? .type with
      | some child =>
        have := Node.size_lt_of_node? h
        do pure (some (← s.typeRef child))
      | none => pure none
    match n.token? .keyword with
    | none => return ⟨.wildcard none none, n.span⟩
    | some t =>
      if t.text = "extends" then return ⟨.wildcard bound none, n.span⟩
      else if t.text = "super" then return ⟨.wildcard none bound, n.span⟩
      else s.refuse n .unsupportedBound
  else
    match h : n.node? .type with
    | some child => do
      have := Node.size_lt_of_node? h
      return ⟨.exact (← s.typeRef child), n.span⟩
    | none => s.refuse n (.missing .type n.kind)
termination_by n.size

end

/-- Lower the type arguments of a construct, if there are any. -/
def typeArguments? (s : Scope) (n : Node) : Lowered (Option (List TypeArgument)) :=
  match n.node? .typeArguments with
  | some child => do return some (← s.typeArguments child)
  | none => .ok none

/-- Lower the type of a name.  Without one the name is dynamic, at its own place. -/
def typeOr (s : Scope) (n : Node) (name : Token) : Lowered TypeRef :=
  match n.node? .type with
  | some child => s.typeRef child
  | none => .ok (.dynamic name.span)

end Scope

end GroovyLowering
