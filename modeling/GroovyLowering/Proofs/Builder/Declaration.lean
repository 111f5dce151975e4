import GroovyLowering.Builder.Declaration
import GroovyLowering.Proofs.Builder.Basic

/-!
# Building declarations restores the builder

Under the assumption that what is inside a construct leaves the builder as it was, so does the
construct.  There is one theorem per construct, named after it.

Annotations, initializers and labelled statements are built by recursion on the size of the tree.
Their equations leave out the evidence that a child is smaller, as those of `Proofs.Equations` do.
-/

namespace GroovyLowering.Walk

open Building

/-! ## Equations of the recursive steps -/

section Equations

variable (w : Walk) (n : Node)

/-- Build one member of an annotation behind the members in front of it. -/
def annotationMember (w : Walk) (members : List (String × Expr)) (pair : Node) :
    Building (List (String × Expr)) := do
  let name ← token pair .name
  match pair.node? .value with
  | some child =>
    let value ← w.elementValue child
    if members.any fun m => m.1 == name.text then
      fail (.invalid (.duplicateMember name.text) name.span)
    else pure (members ++ [(name.text, value)])
  | none => Building.refuse pair (.missing .value pair.kind)

theorem annotationUse_eq :
    w.annotationUse n = do
      let className := (← node n .name).dottedName
      let members ← (n.nodes .pair).foldlM w.annotationMember []
      match n.node? .value with
      | some child =>
        let value ← w.elementValue child
        return ⟨className, setMember "value" value members, n.span⟩
      | none => return ⟨className, members, n.span⟩ := by
  rw [annotationUse]
  congr 1
  funext name
  rw [List.foldlM_subtype (g := w.annotationMember), List.unattach_attach]
  · dsimp only
    congr 1
    funext members
    split
    · simp_all
    · simp_all
  · intro members pair hpair
    rw [annotationMember]
    dsimp only
    congr 1
    funext name
    split
    · simp_all
    · simp_all

theorem elementValue_eq :
    w.elementValue n =
      match n.node? .expression with
      | some child => w.expr child
      | none =>
        match n.node? .annotationUse with
        | some child => do
          return { shape := .annotationUse (← w.annotationUse child), span := n.span }
        | none =>
          match n.node? .array with
          | some array => do
            let elements ← (array.nodes .element).mapM w.elementValue
            return { shape := .list elements false, span := array.span }
          | none => Building.refuse n .unsupportedAnnotationValue := by
  rw [elementValue]
  split
  · simp_all
  · split
    · simp_all
    · split
      · simp_all
      · simp_all

theorem initializer_eq :
    w.initializer n =
      match n.node? .array with
      | some array => do
        let elements ← (array.nodes .element).mapM w.initializer
        return { shape := .list elements false, span := n.span }
      | none => do
        let e ← w.expr (← node n .expression)
        return e.withSpan n.span := by
  rw [initializer]
  split
  · simp_all
  · simp_all

theorem blockStatement_eq :
    w.blockStatement n =
      match n.kind with
      | .localVariableDeclaration => w.localVariable n
      | .labeledStatement => do
        let label ← token n .label
        match n.node? .statement with
        | some child => return (← w.blockStatement child).map (Stmt.withLabel label.text)
        | none => Building.refuse n (.missing .statement n.kind)
      | .typeDeclaration => Building.refuse n .unsupportedTypeDeclaration
      | .methodDeclaration => Building.refuse n .nestedMethod
      | _ => do return [← w.stmt n] := by
  rw [blockStatement]
  split
  · simp_all
  · simp_all only
    congr 1
    funext label
    split
    · simp_all
    · simp_all
  · simp_all
  · simp_all
  · simp_all

end Equations

namespace Follows

variable {w : Walk} {b : Builder} {s : Scope}

/-! ## Annotations and modifiers -/

mutual

theorem annotationUse (h : w.Follows b s) (n : Node) :
    (w.annotationUse n).Yields b (s.annotationUse n) := by
  rw [annotationUse_eq, Scope.annotationUse_eq]
  refine (h.node n .name).bind fun name => ?_
  have hmember : ∀ members, ∀ pair ∈ n.nodes .pair,
      (w.annotationMember members pair).Yields b (s.annotationMember members pair) := by
    intro members pair hpair
    have hsize := Node.size_lt_of_mem_nodes hpair
    rw [annotationMember, Scope.annotationMember]
    refine (h.token pair .name).bind fun name => ?_
    cases hvalue : pair.node? .value with
    | some child =>
      have := Nat.lt_trans (Node.size_lt_of_node? hvalue) hsize
      refine (elementValue h child).bind fun value => ?_
      exact .ite (h.look fun _ _ _ _ _ => rfl) (.pure _)
    | none => exact h.refuse _ _
  refine (Yields.foldlM hmember []).bind fun members => ?_
  cases hvalue : n.node? .value with
  | some child =>
    have := Node.size_lt_of_node? hvalue
    exact (elementValue h child).bind fun _ => .pure _
  | none => exact .pure _
termination_by n.size

theorem elementValue (h : w.Follows b s) (n : Node) :
    (w.elementValue n).Yields b (s.elementValue n) := by
  rw [elementValue_eq, Scope.elementValue_eq]
  cases n.node? .expression with
  | some child => exact h.expr child
  | none =>
    cases huse : n.node? .annotationUse with
    | some child =>
      have := Node.size_lt_of_node? huse
      exact (annotationUse h child).bind fun _ => .pure _
    | none =>
      cases harray : n.node? .array with
      | some array =>
        have hsize := Node.size_lt_of_node? harray
        refine Yields.bind (.mapM fun child hchild => ?_) fun _ => .pure _
        have := Nat.lt_trans (Node.size_lt_of_mem_nodes hchild) hsize
        exact elementValue h child
      | none => exact h.refuse _ _
termination_by n.size

end

theorem annotations (h : w.Follows b s) (n : Node) :
    (w.annotations n).Yields b (s.annotations n) :=
  .mapM fun child _ => h.annotationUse child

theorem modifier (h : w.Follows b s) (n : Node) : (w.modifier n).Yields b (s.modifier n) := by
  rw [Walk.modifier, Scope.modifier]
  cases n.node? .annotationUse with
  | some child => exact (h.annotationUse child).bind fun _ => .pure _
  | none =>
    refine (h.token n .keyword).bind fun keyword => ?_
    cases ModifierKind.ofKeyword? keyword.text with
    | some kind => exact .pure _
    | none => exact h.refuse _ _

theorem modifiers (h : w.Follows b s) (n : Node) : (w.modifiers n).Yields b (s.modifiers n) := by
  rw [Walk.modifiers, Scope.modifiers]
  cases n.node? .modifiers with
  | some list => exact Yields.bind (.mapM fun child _ => h.modifier child) fun _ => .pure _
  | none => exact .pure _

/-! ## Local variables -/

theorem initializer (h : w.Follows b s) (n : Node) :
    (w.initializer n).Yields b (s.initializer n) := by
  rw [initializer_eq, Scope.initializer_eq]
  cases harray : n.node? .array with
  | some array =>
    have hsize := Node.size_lt_of_node? harray
    refine Yields.bind (.mapM fun child hchild => ?_) fun _ => .pure _
    have := Nat.lt_trans (Node.size_lt_of_mem_nodes hchild) hsize
    exact initializer h child
  | none => exact (h.node n .expression).bind fun child => (h.expr child).bind fun _ => .pure _
termination_by n.size

theorem initializerOr (h : w.Follows b s) (n : Node) (fallback : Span) :
    (w.initializerOr n fallback).Yields b (s.initializerOr n fallback) := by
  rw [Walk.initializerOr, Scope.initializerOr]
  cases n.node? .initializer with
  | some child => exact h.initializer child
  | none => exact .pure _

theorem declarator (h : w.Follows b s) (n : Node) (modifiers : ModifierSet) (span : Span)
    (d : Node) : (w.declarator n modifiers span d).Yields b (s.declarator n modifiers span d) := by
  rw [Walk.declarator, Scope.declarator]
  refine (h.token d .name).bind fun name => ?_
  refine (h.look (Scope.typeOr_reads n name)).bind fun type => ?_
  exact (h.initializerOr d d.span).bind fun _ => .pure _

theorem declarators (h : w.Follows b s) (n : Node) (modifiers : ModifierSet) (ds : List Node) :
    (w.declarators n modifiers ds).Yields b (s.declarators n modifiers ds) := by
  match ds with
  | [] => exact h.refuse _ _
  | [d] => exact (h.declarator n modifiers n.span d).bind fun _ => .pure _
  | d :: d' :: others =>
    refine (h.declarator n modifiers (d.span.withStartOf n.span) d).bind fun first => ?_
    exact Yields.bind (.mapM fun d _ => h.declarator n modifiers d.span d) fun _ => .pure _

theorem tuple (h : w.Follows b s) (n : Node) (modifiers : ModifierSet) (pairs : List Node) :
    (w.tuple n modifiers pairs).Yields b (s.tuple n modifiers pairs) := by
  refine .ite ?_ (h.refuse _ _)
  refine (h.initializerOr n n.span).bind fun initializer => ?_
  exact .mapM fun pair _ => h.look (Scope.tupleName_reads n modifiers initializer _ _)

theorem localVariable (h : w.Follows b s) (n : Node) :
    (w.localVariable n).Yields b (s.localVariable n) := by
  rw [Walk.localVariable, Scope.localVariable]
  refine (h.modifiers n).bind fun modifiers => ?_
  cases n.node? .tuple with
  | some pairs => exact h.tuple n modifiers _
  | none => exact h.declarators n modifiers _

/-! ## Statement lists -/

theorem blockStatement (h : w.Follows b s) (n : Node) :
    (w.blockStatement n).Yields b (s.blockStatement n) := by
  rw [blockStatement_eq, Scope.blockStatement_eq]
  cases n.kind with
  | localVariableDeclaration => exact h.localVariable n
  | labeledStatement =>
    refine (h.token n .label).bind fun label => ?_
    cases hchild : n.node? .statement with
    | some child =>
      have := Node.size_lt_of_node? hchild
      exact (blockStatement h child).bind fun _ => .pure _
    | none => exact h.refuse _ _
  | typeDeclaration | methodDeclaration => exact h.refuse _ _
  | _ => exact (h.stmt n).bind fun _ => .pure _
termination_by n.size

theorem statements (h : w.Follows b s) (n : Node) :
    (w.statements n).Yields b (s.statements n) :=
  Yields.bind (.mapM fun child _ => h.blockStatement child) fun _ => .pure _

theorem block (h : w.Follows b s) (n : Node) : (w.block n).Yields b (s.block n) :=
  (h.statements n).bind fun _ => .pure _

theorem body (h : w.Follows b s) (n : Node) (fallback : Span) :
    (w.body n fallback).Yields b (s.body n fallback) := by
  rw [Walk.body, Scope.body]
  cases n.node? .body with
  | some list => exact (h.statements list).bind fun _ => .pure _
  | none => exact .pure _

/-! ## Closures and methods -/

theorem parameter (h : w.Follows b s) (n : Node) : (w.parameter n).Yields b (s.parameter n) := by
  rw [Walk.parameter, Scope.parameter]
  refine (h.modifiers n).bind fun modifiers => (h.token n .name).bind fun name => ?_
  refine (h.look (Scope.typeOr_reads n name)).bind fun type => ?_
  exact (h.expr? n .defaultValue).bind fun _ => .pure _

theorem closureParameters (h : w.Follows b s) (n : Node) :
    (w.closureParameters n).Yields b (s.closureParameters n) :=
  .ite (Yields.bind (.mapM fun child _ => h.parameter child) fun _ => .pure _) (.pure _)

theorem closure (h : w.Follows b s) (n : Node) : (w.closure n).Yields b (s.closure n) :=
  (h.closureParameters n).bind fun _ => (h.body n n.span).bind fun _ => .pure _

theorem methodBody (h : w.Follows b s) (n : Node) :
    (w.methodBody n).Yields b (s.methodBody n) := by
  rw [Walk.methodBody, Scope.methodBody]
  cases n.node? .body with
  | some child => exact (h.block child).bind fun _ => .pure _
  | none => exact .pure _

theorem method (h : w.Follows b s) (n : Node) : (w.method n).Yields b (s.method n) := by
  rw [Walk.method, Scope.method]
  refine (h.modifiers n).bind fun modifiers => (h.token n .name).bind fun nameToken => ?_
  refine Yields.bind (h.look fun _ _ _ _ _ => rfl) fun name => ?_
  refine (h.look (Scope.returnType_reads n nameToken)).bind fun returnType => ?_
  refine (h.node n .parameters).bind fun list => ?_
  refine Yields.bind (.mapM fun child _ => h.parameter child) fun parameters => ?_
  exact (h.methodBody n).bind fun _ => .pure _

end Follows

end GroovyLowering.Walk
