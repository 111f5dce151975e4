import GroovyLowering.Builder.Basic

/-!
# Building declarations

Annotations, modifiers, local variables, statement lists, closures and methods, with the state of a
builder.  The steps are those of `Lower.Annotation`, `Lower.Declaration`, `Lower.Block` and
`Lower.Callable`, in the same order.
-/

namespace GroovyLowering.Walk

open Building

/-! ## Annotations and modifiers -/

mutual

/-- Build an annotation. -/
def annotationUse (w : Walk) (n : Node) : Building Annotation := do
  let className := (← node n .name).dottedName
  let members ← (n.nodes .pair).attach.foldlM (fun members ⟨pair, hp⟩ => do
    let name ← token pair .name
    match hv : pair.node? .value with
    | some child =>
      have := Nat.lt_trans (Node.size_lt_of_node? hv) (Node.size_lt_of_mem_nodes hp)
      let value ← w.elementValue child
      if members.any fun m => m.1 == name.text then
        fail (.invalid (.duplicateMember name.text) name.span)
      else pure (members ++ [(name.text, value)])
    | none => refuse pair (.missing .value pair.kind)) []
  match h : n.node? .value with
  | some child =>
    have := Node.size_lt_of_node? h
    let value ← w.elementValue child
    return ⟨className, setMember "value" value members, n.span⟩
  | none => return ⟨className, members, n.span⟩
termination_by n.size

/-- Build the value of a member. -/
def elementValue (w : Walk) (n : Node) : Building Expr :=
  match n.node? .expression with
  | some child => w.expr child
  | none =>
    match h : n.node? .annotationUse with
    | some child => do
      have := Node.size_lt_of_node? h
      return { shape := .annotationUse (← w.annotationUse child), span := n.span }
    | none =>
      match ha : n.node? .array with
      | some array => do
        let elements ← (array.nodes .element).attach.mapM fun ⟨child, h⟩ =>
          have := Nat.lt_trans (Node.size_lt_of_mem_nodes h) (Node.size_lt_of_node? ha)
          w.elementValue child
        return { shape := .list elements false, span := array.span }
      | none => refuse n .unsupportedAnnotationValue
termination_by n.size

end

/-- Build the annotations written directly on a construct. -/
def annotations (w : Walk) (n : Node) : Building (List Annotation) :=
  (n.nodes .annotationUse).mapM w.annotationUse

/-- Build a modifier. -/
def modifier (w : Walk) (n : Node) : Building Modifier :=
  match n.node? .annotationUse with
  | some child => do return .ofAnnotationUse (← w.annotationUse child)
  | none => do
    let keyword ← token n .keyword
    match ModifierKind.ofKeyword? keyword.text with
    | some kind => return .ofKind kind keyword.span
    | none => refuse n .unsupportedModifier

/-- Build the modifiers of a declaration. -/
def modifiers (w : Walk) (n : Node) : Building ModifierSet :=
  match n.node? .modifiers with
  | some list => do return ⟨← (list.nodes .modifier).mapM w.modifier⟩
  | none => return {}

/-! ## Local variables -/

/-- Build an initializer. -/
def initializer (w : Walk) (n : Node) : Building Expr :=
  match ha : n.node? .array with
  | some array => do
    let elements ← (array.nodes .element).attach.mapM fun ⟨child, h⟩ =>
      have := Nat.lt_trans (Node.size_lt_of_mem_nodes h) (Node.size_lt_of_node? ha)
      w.initializer child
    return { shape := .list elements false, span := n.span }
  | none => do
    let e ← w.expr (← node n .expression)
    return e.withSpan n.span
termination_by n.size

/-- Build the initializer of a construct, or nothing at a given place if there is none. -/
def initializerOr (w : Walk) (n : Node) (fallback : Span) : Building Expr :=
  match n.node? .initializer with
  | some child => w.initializer child
  | none => return .nothing fallback

/-- Build one declarator of a construct, as a statement with a given span. -/
def declarator (w : Walk) (n : Node) (modifiers : ModifierSet) (span : Span) (d : Node) :
    Building Stmt := do
  let name ← token d .name
  let type ← look fun s => s.typeOr n name
  let initializer ← w.initializerOr d d.span
  return Scope.declare modifiers
    { declared := { name := name.text, type }, nameSpan := name.span, initializer, slot := none,
      annotations := [] } span

/-- Build the declarators of a construct. -/
def declarators (w : Walk) (n : Node) (modifiers : ModifierSet) : List Node → Building (List Stmt)
  | [] => refuse n .unsupportedDeclaration
  | [d] => do return [← w.declarator n modifiers n.span d]
  | d :: others => do
    let first ← w.declarator n modifiers (d.span.withStartOf n.span) d
    let others ← others.mapM fun d => w.declarator n modifiers d.span d
    return first :: others

/-- Build a tuple declaration. -/
def tuple (w : Walk) (n : Node) (modifiers : ModifierSet) (pairs : List Node) :
    Building (List Stmt) :=
  if modifiers.contains .untyped then do
    let initializer ← w.initializerOr n n.span
    pairs.zipIdx.mapM fun (pair, index) =>
      look fun s => s.tupleName n modifiers initializer ⟨index, pairs.length⟩ pair
  else refuse n .tupleWithoutDef

/-- Build a local variable declaration, one statement per name. -/
def localVariable (w : Walk) (n : Node) : Building (List Stmt) := do
  let modifiers ← w.modifiers n
  match n.node? .tuple with
  | some pairs => w.tuple n modifiers (pairs.nodes .pair)
  | none => w.declarators n modifiers (n.nodes .declarator)

/-! ## Statement lists -/

/-- Build a statement of a list, with all statements that it gives. -/
def blockStatement (w : Walk) (n : Node) : Building (List Stmt) :=
  match n.kind with
  | .localVariableDeclaration => w.localVariable n
  | .labeledStatement => do
    let label ← token n .label
    match h : n.node? .statement with
    | some child =>
      have := Node.size_lt_of_node? h
      return (← w.blockStatement child).map (Stmt.withLabel label.text)
    | none => refuse n (.missing .statement n.kind)
  | .typeDeclaration => refuse n .unsupportedTypeDeclaration
  | .methodDeclaration => refuse n .nestedMethod
  | _ => do return [← w.stmt n]
termination_by n.size

/-- Build the statements of a node. -/
def statements (w : Walk) (n : Node) : Building (List Stmt) := do
  return (← (n.nodes .statement).mapM w.blockStatement).flatten

/-- Build a block in braces. -/
def block (w : Walk) (n : Node) : Building Stmt := do
  return .block (← w.statements n) n.span

/-- Build the statement list in the body of a construct, which has a place for an empty one. -/
def body (w : Walk) (n : Node) (fallback : Span) : Building Stmt :=
  match n.node? .body with
  | some list => do return .block (← w.statements list) (list.spanOr fallback)
  | none => return .block [] fallback

/-! ## Closures and methods -/

/-- Build a parameter. -/
def parameter (w : Walk) (n : Node) : Building Parameter := do
  let modifiers ← w.modifiers n
  let name ← token n .name
  let type := Scope.variadic n (← look fun s => s.typeOr n name)
  let defaultValue ← w.expr? n .defaultValue
  return modifiers.applyToParameter { name := name.text, type, defaultValue, span := n.span }

/-- Build the parameters of a closure. -/
def closureParameters (w : Walk) (n : Node) : Building ClosureParameters :=
  if n.has .arrow then do return .explicit (← (n.nodes .parameter).mapM w.parameter)
  else return .implicit

/-- Build a closure. -/
def closure (w : Walk) (n : Node) : Building Expr := do
  let parameters ← w.closureParameters n
  let code ← w.body n n.span
  return { shape := .closure parameters code, span := n.span }

/-- Build the body of a method, if there is one. -/
def methodBody (w : Walk) (n : Node) : Building (Option Stmt) :=
  match n.node? .body with
  | some child => do return some (← w.block child)
  | none => return none

/-- Build a method. -/
def method (w : Walk) (n : Node) : Building MethodDecl := do
  let modifiers ← w.modifiers n
  let nameToken ← token n .name
  let name ← look fun s => s.methodName n nameToken
  let returnType ← look fun s => s.returnType n nameToken
  let parameters ← ((← node n .parameters).nodes .parameter).mapM w.parameter
  let body ← w.methodBody n
  let facts := modifiers.visibilityFacts (n.node? .returnType).isSome false
  return modifiers.applyToMethod
    { name, modifiers := Scope.publicUnless modifiers, returnType, parameters,
      exceptions := Scope.exceptions n, body, annotations := [],
      syntheticPublic := facts.isSyntheticPublic, span := n.span }

end GroovyLowering.Walk
