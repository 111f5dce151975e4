import GroovyLowering.Lower.Expression
import GroovyLowering.Lower.Statement

/-!
# Equations of the recursive lowerings

Types, annotations, initializers and labelled statements are lowered by recursion on the size of
the tree, so their definitions carry the evidence that a child is smaller.  The equations here
leave the evidence out.  They are what every proof about these lowerings starts with.
-/

namespace GroovyLowering.Scope

variable (s : Scope) (n : Node)

/-! ## Types -/

theorem typeRef_eq :
    s.typeRef n =
      match n.node? .classType with
      | some child => do
        let type ← s.classType child
        let type :=
          if 0 < (n.tokens .dimension).length then
            { type with shape := type.shape.withGenerics none }
          else type
        return { type.withDimensions (n.tokens .dimension).length with span := n.span }
      | none =>
        match n.token? .primitive with
        | some t =>
          .ok { (⟨.primitive t.text, t.span⟩ : TypeRef).withDimensions
                  (n.tokens .dimension).length with span := n.span }
        | none => s.refuse n .unsupportedType := by
  rw [typeRef]
  dsimp only
  split
  · next child hchild => simp only [hchild]
  · next hnone => cases n.token? .primitive <;> simp only [hnone]

theorem classType_eq :
    s.classType n = do
      let type := (← s.node n .name).namedType
      match n.node? .typeArguments with
      | some child =>
        let generics ← s.typeArguments child
        return { type with shape := type.shape.withGenerics (some generics), span := n.span }
      | none => return { type with span := n.span } := by
  rw [classType]
  congr 1
  funext name
  split
  · simp_all
  · simp_all

theorem typeArguments_eq : s.typeArguments n = (n.nodes .argument).mapM s.typeArgument := by
  rw [typeArguments]
  simp

/-- Lower the bound of a wildcard, if there is one. -/
def wildcardBound (s : Scope) (n : Node) : Lowered (Option TypeRef) :=
  match n.node? .type with
  | some child => do return some (← s.typeRef child)
  | none => .ok none

/-- The wildcard with a bound, given which side the keyword puts it on. -/
def wildcardOf (s : Scope) (n : Node) (bound : Option TypeRef) : Lowered TypeArgument :=
  match n.token? .keyword with
  | none => .ok ⟨.wildcard none none, n.span⟩
  | some t =>
    if t.text = "extends" then .ok ⟨.wildcard bound none, n.span⟩
    else if t.text = "super" then .ok ⟨.wildcard none bound, n.span⟩
    else s.refuse n .unsupportedBound

theorem typeArgument_eq :
    s.typeArgument n =
      if n.has .question then s.wildcardBound n >>= s.wildcardOf n
      else
        match n.node? .type with
        | some child => do return ⟨.exact (← s.typeRef child), n.span⟩
        | none => s.refuse n (.missing .type n.kind) := by
  rw [typeArgument]
  split
  · dsimp only
    unfold wildcardBound
    split
    · next child hchild =>
      simp only [hchild, bind_assoc, pure_bind]
      rfl
    · next hnone =>
      simp only [hnone, pure_bind]
      rfl
  · split
    · next child hchild => simp only [hchild]
    · next hnone => simp only [hnone]

/-! ## Annotations -/

/-- Lower one member of an annotation behind the members in front of it. -/
def annotationMember (s : Scope) (members : List (String × Expr)) (pair : Node) :
    Lowered (List (String × Expr)) := do
  let name ← s.token pair .name
  match pair.node? .value with
  | some child =>
    let value ← s.elementValue child
    if members.any fun m => m.1 == name.text then
      .error (.invalid (.duplicateMember name.text) name.span)
    else pure (members ++ [(name.text, value)])
  | none => s.refuse pair (.missing .value pair.kind)

theorem annotationUse_eq :
    s.annotationUse n = do
      let className := (← s.node n .name).dottedName
      let members ← (n.nodes .pair).foldlM s.annotationMember []
      match n.node? .value with
      | some child =>
        let value ← s.elementValue child
        return ⟨className, setMember "value" value members, n.span⟩
      | none => return ⟨className, members, n.span⟩ := by
  rw [annotationUse]
  congr 1
  funext name
  rw [List.foldlM_subtype (g := s.annotationMember), List.unattach_attach]
  · dsimp only
    congr 1
    funext members
    split
    · simp_all
    · simp_all
  · intro members pair hpair
    rw [annotationMember]
    dsimp only
    congr 1
    funext name
    split
    · simp_all
    · simp_all

theorem elementValue_eq :
    s.elementValue n =
      match n.node? .expression with
      | some child => s.expr child
      | none =>
        match n.node? .annotationUse with
        | some child => do
          return { shape := .annotationUse (← s.annotationUse child), span := n.span }
        | none =>
          match n.node? .array with
          | some array => do
            let elements ← (array.nodes .element).mapM s.elementValue
            return { shape := .list elements false, span := array.span }
          | none => s.refuse n .unsupportedAnnotationValue := by
  rw [elementValue]
  split
  · simp_all
  · split
    · simp_all
    · split
      · simp_all
      · simp_all

/-! ## Initializers and labelled statements -/

theorem initializer_eq :
    s.initializer n =
      match n.node? .array with
      | some array => do
        let elements ← (array.nodes .element).mapM s.initializer
        return { shape := .list elements false, span := n.span }
      | none => do
        let e ← s.expr (← s.node n .expression)
        return e.withSpan n.span := by
  rw [initializer]
  split
  · simp_all
  · simp_all

theorem blockStatement_eq :
    s.blockStatement n =
      match n.kind with
      | .localVariableDeclaration => s.localVariable n
      | .labeledStatement => do
        let label ← s.token n .label
        match n.node? .statement with
        | some child => return (← s.blockStatement child).map (Stmt.withLabel label.text)
        | none => s.refuse n (.missing .statement n.kind)
      | .typeDeclaration => s.refuse n .unsupportedTypeDeclaration
      | .methodDeclaration => s.refuse n .nestedMethod
      | _ => do return [← s.stmt n] := by
  rw [blockStatement]
  split
  · simp_all
  · simp_all only
    congr 1
    funext label
    split
    · simp_all
    · simp_all
  · simp_all
  · simp_all
  · simp_all

/-! ## Paths and commands -/

theorem pathElements_nil (receiver : Expr) : s.pathElements receiver [] = .ok receiver := rfl

theorem pathElements_cons (receiver : Expr) (element : Node) (elements : List Node) :
    s.pathElements receiver (element :: elements) =
      s.pathElement receiver element >>= fun receiver => s.pathElements receiver elements :=
  List.foldlM_cons

theorem pathElements_append (receiver : Expr) (front back : List Node) :
    s.pathElements receiver (front ++ back) =
      s.pathElements receiver front >>= fun receiver => s.pathElements receiver back :=
  List.foldlM_append

/-- Lower the arguments of a command, if there are any. -/
def argumentList? (s : Scope) (n : Node) : Lowered (Option Arguments) :=
  match n.node? .arguments with
  | some list => do return some (← s.argumentList list)
  | none => .ok none

theorem command_eq :
    s.command n = do
      let base ← s.expr (← s.node n .base)
      let arguments ← s.argumentList? n
      let head ← s.commandHead n base arguments
      return (← (n.nodes .commandArgument).foldlM s.commandArgument head).withSpan n.span := by
  unfold command argumentList?
  congr 1
  funext base
  congr 1
  funext base
  cases n.node? .arguments with
  | none => rfl
  | some list => simp only [bind_assoc, pure_bind]

/-- The call that a command makes of its base. -/
def headCall (base : Expr) (arguments : Arguments) : Expr :=
  match base.shape with
  | .property access | .field access => access.call arguments arguments.span
  | .binary .. => base.callValue arguments arguments.span
  | _ => base.callOnThis arguments arguments.span

theorem commandHead_eq (base : Expr) (arguments : Option Arguments) :
    s.commandHead n base arguments =
      if base.isCall then
        match arguments with
        | some _ => s.refuse n .argumentsAfterCall
        | none => .ok base
      else .ok (headCall base (arguments.getD (.positional [] base.span))) := by
  obtain ⟨shape, span, parenthesized⟩ := base
  cases shape <;> rfl

end GroovyLowering.Scope
