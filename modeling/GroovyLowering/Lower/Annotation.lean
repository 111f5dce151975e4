import GroovyLowering.Lower.TypeRef
import GroovyLowering.Modifier.Set

/-!
# Lowering annotations and modifiers

The members of an annotation are kept in source order.  A name that comes a second time is refused
at its own place, after its value is lowered.  A value without a name is the member `value`.

The value of a member is an expression, an annotation or an array of such values.  Only an
expression counts as a level of nesting.
-/

namespace GroovyLowering

/-- Give a member a value: in its place if it is there, else at the end. -/
def setMember (name : String) (value : Expr) : List (String × Expr) → List (String × Expr)
  | [] => [(name, value)]
  | m :: rest => if m.1 = name then (name, value) :: rest else m :: setMember name value rest

namespace Scope

mutual

/-- Lower an annotation. -/
def annotationUse (s : Scope) (n : Node) : Lowered Annotation := do
  let className := (← s.node n .name).dottedName
  let members ← (n.nodes .pair).attach.foldlM (fun members ⟨pair, hp⟩ => do
    let name ← s.token pair .name
    match hv : pair.node? .value with
    | some child =>
      have := Nat.lt_trans (Node.size_lt_of_node? hv) (Node.size_lt_of_mem_nodes hp)
      let value ← s.elementValue child
      if members.any fun m => m.1 == name.text then
        .error (.invalid (.duplicateMember name.text) name.span)
      else pure (members ++ [(name.text, value)])
    | none => s.refuse pair (.missing .value pair.kind)) []
  match h : n.node? .value with
  | some child =>
    have := Node.size_lt_of_node? h
    let value ← s.elementValue child
    return ⟨className, setMember "value" value members, n.span⟩
  | none => return ⟨className, members, n.span⟩
termination_by n.size

/-- Lower the value of a member. -/
def elementValue (s : Scope) (n : Node) : Lowered Expr :=
  match n.node? .expression with
  | some child => s.expr child
  | none =>
    match h : n.node? .annotationUse with
    | some child => do
      have := Node.size_lt_of_node? h
      return { shape := .annotationUse (← s.annotationUse child), span := n.span }
    | none =>
      match ha : n.node? .array with
      | some array => do
        let elements ← (array.nodes .element).attach.mapM fun ⟨child, h⟩ =>
          have := Nat.lt_trans (Node.size_lt_of_mem_nodes h) (Node.size_lt_of_node? ha)
          s.elementValue child
        return { shape := .list elements false, span := array.span }
      | none => s.refuse n .unsupportedAnnotationValue
termination_by n.size

end

/-- Lower the annotations written directly on a construct. -/
def annotations (s : Scope) (n : Node) : Lowered (List Annotation) :=
  (n.nodes .annotationUse).mapM s.annotationUse

/-- Lower a modifier. -/
def modifier (s : Scope) (n : Node) : Lowered Modifier :=
  match n.node? .annotationUse with
  | some child => do return .ofAnnotationUse (← s.annotationUse child)
  | none => do
    let keyword ← s.token n .keyword
    match ModifierKind.ofKeyword? keyword.text with
    | some kind => return .ofKind kind keyword.span
    | none => s.refuse n .unsupportedModifier

/-- Lower the modifiers of a declaration. -/
def modifiers (s : Scope) (n : Node) : Lowered ModifierSet :=
  match n.node? .modifiers with
  | some list => do return ⟨← (list.nodes .modifier).mapM s.modifier⟩
  | none => .ok {}

end Scope

end GroovyLowering
