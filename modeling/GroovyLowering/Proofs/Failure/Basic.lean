import GroovyLowering.Lower.Operator
import GroovyLowering.Lower.Path
import GroovyLowering.Proofs.Equations
import GroovyLowering.Proofs.Layout.Order
import GroovyLowering.Proofs.Step

/-!
# Where failures point

A failure inside a statement should point at it.  A node with tokens is refused at its own place,
and so is a token, and these lie within every node that they are a part of.  So a failure points
elsewhere in two cases only (`CompileError.PointsAt`).

* A node without tokens is refused at the enclosing place of its scope.  This is within the
  statement as soon as the scope is the one of a level inside it.
* The target of an assignment is refused at its own place, which for a node without tokens is the
  start of the file.

`Scope.Reports` says this of every failure of a lowering, and is put together along its steps.  A
scope `Locates` its failures if it says this of all expressions and statements.  The name of a
primitive type that is called is refused at the place of the expression, so what a scope makes of a
node has to have its place within the statement where it is such a name.
-/

namespace GroovyLowering

variable {α β : Type}

/-! ## Places of failures -/

/-- A failure is about a node as such, and has a place. -/
inductive CompileError.IsAbout (c : Node) (place : Span) : CompileError → Prop
  /-- The node is refused. -/
  | refused {complaint : Complaint} : IsAbout c place (.structural complaint c.text place)
  /-- The node is a level too deep. -/
  | tooDeep {limit : Nat} : IsAbout c place (.nestingTooDeep limit place)

theorem CompileError.IsAbout.span_eq {c : Node} {place : Span} {e : CompileError}
    (h : e.IsAbout c place) : e.span = place := by
  cases h <;> rfl

/-- A failure points at a node, given the place of the parts that have none. -/
inductive CompileError.PointsAt (m : Node) (place : Span) : CompileError → Prop
  /-- Its place is within the node. -/
  | within {e : CompileError} : e.span.Within m.span → PointsAt m place e
  /-- It is about a part without tokens. -/
  | bare {c : Node} {e : CompileError} : c.IsPartOf m → c.allTokens = [] → e.IsAbout c place →
      PointsAt m place e
  /-- It is about the target of an assignment, which has no tokens. -/
  | target {n left : Node} : n.IsPartOf m → n.kind = .assignment → n.node? .left = some left →
      left.allTokens = [] → PointsAt m place (.invalid .assignedToNonVariable .fileStart)

/-- All failures of a lowering point at a node. -/
def Scope.Reports (s : Scope) (m : Node) (x : Lowered α) : Prop :=
  ∀ e, x = .error e → e.PointsAt m s.enclosing

/-- The name of a primitive type. -/
def Expr.IsPrimitive (e : Expr) : Prop := ∃ v, e.shape = .name v ∧ v.name ∈ primitiveTypes

/-- A scope locates all its failures at a node, whose tokens are in order. -/
structure Scope.Locates (s : Scope) (m : Node) : Prop where
  order : Token.InOrder m.allTokens
  expr : ∀ {n : Node}, n.IsPartOf m → s.Reports m (s.expr n)
  stmt : ∀ {n : Node}, n.IsPartOf m → s.Reports m (s.stmt n)
  /-- The name of a primitive type has tokens, and its place. -/
  primitive : ∀ {n : Node} {e : Expr}, n.IsPartOf m → s.expr n = .ok e → e.IsPrimitive →
    n.allTokens ≠ [] ∧ e.span.Within m.span

variable {s : Scope} {m n : Node} {role : Role} {place : Span} {e : CompileError}

/-- What is refused at the place of a part points at the node. -/
theorem CompileError.PointsAt.of_spanOr (horder : Token.InOrder m.allTokens) (hn : n.IsPartOf m)
    (he : e.IsAbout n (n.spanOr place)) : e.PointsAt m place := by
  by_cases hbare : n.allTokens = []
  · rw [Node.spanOr_of_eq_nil hbare] at he
    exact .bare hn hbare he
  · have hwithin : (n.spanOr place).Within m.span := Node.spanOr_within horder hn.sublist hbare
    rw [← he.span_eq] at hwithin
    exact .within hwithin

/-- A part without tokens does not matter if the place of such parts is within the node. -/
theorem CompileError.PointsAt.of_within (h : e.PointsAt m place) (hplace : place.Within m.span)
    (place' : Span) : e.PointsAt m place' := by
  cases h with
  | within h => exact .within h
  | bare _ _ he =>
    rw [← he.span_eq] at hplace
    exact .within hplace
  | target hn hkind hleft hbare => exact .target hn hkind hleft hbare

namespace Scope.Reports

/-! ## Steps -/

theorem ok {a : α} : s.Reports m (.ok a) := by
  intro e h
  cases h

theorem pure {a : α} : s.Reports m (Pure.pure a : Lowered α) := ok

theorem error (h : e.PointsAt m s.enclosing) : s.Reports m (.error e : Lowered α) := by
  intro e' he
  cases he
  exact h

theorem bind {x : Lowered α} {f : α → Lowered β} (hx : s.Reports m x)
    (hf : ∀ a, x = .ok a → s.Reports m (f a)) : s.Reports m (x >>= f) := by
  intro e h
  rcases Lowered.error_of_bind h with h | ⟨a, ha, h⟩
  · exact hx e h
  · exact hf a ha e h

/-- A last step that cannot fail. -/
theorem map {x : Lowered α} {f : α → β} (hx : s.Reports m x) :
    s.Reports m (x >>= fun a => Pure.pure (f a)) :=
  hx.bind fun _ _ => pure

theorem mapM {f : α → Lowered β} {xs : List α} (h : ∀ x ∈ xs, s.Reports m (f x)) :
    s.Reports m (xs.mapM f) := by
  intro e he
  obtain ⟨x, hx, he⟩ := Lowered.error_of_mapM he
  exact h x hx e he

theorem foldlM {f : β → α → Lowered β} {xs : List α} (h : ∀ x ∈ xs, ∀ b, s.Reports m (f b x))
    (b : β) : s.Reports m (xs.foldlM f b) := by
  intro e he
  obtain ⟨x, hx, b', he⟩ := Lowered.error_of_foldlM he
  exact h x hx b' e he

end Scope.Reports

namespace Scope.Locates

/-! ## Nodes and tokens -/

/-- A part with tokens has its place within the node. -/
theorem span_within (hs : s.Locates m) (hn : n.IsPartOf m) (hne : n.allTokens ≠ [])
    (place : Span) : (n.spanOr place).Within m.span :=
  Node.spanOr_within hs.order hn.sublist hne

theorem refuse (hs : s.Locates m) (hn : n.IsPartOf m) (complaint : Complaint) :
    s.Reports m (s.refuse n complaint : Lowered α) :=
  .error (.of_spanOr hs.order hn .refused)

/-- A subtree that a node must have. -/
theorem node (hs : s.Locates m) (hn : n.IsPartOf m) {f : Node → Lowered α}
    (hf : ∀ c, n.node? role = some c → c.IsPartOf m → s.Reports m (f c)) :
    s.Reports m (s.node n role >>= f) := by
  rw [Scope.node]
  split
  · next c hc => exact hf c hc (hn.child? hc)
  · exact hs.refuse hn _

/-- A token that a node must have.  The node then has a place. -/
theorem token (hs : s.Locates m) (hn : n.IsPartOf m) {f : Token → Lowered α}
    (hf : ∀ t, n.token? role = some t → t.span.Within m.span → n.allTokens ≠ [] →
      s.Reports m (f t)) :
    s.Reports m (s.token n role >>= f) := by
  rw [Scope.token]
  split
  · next t ht =>
    have hmem := List.mem_of_head? ht
    have hne := List.ne_nil_of_mem (Node.mem_allTokens_of_mem_tokens hmem)
    exact hf t ht (hn.token_within hs.order hmem) hne
  · exact hs.refuse hn _

/-- A subtree that is lowered as an operand. -/
theorem operand (hs : s.Locates m) (hn : n.IsPartOf m) {f : Node → Expr → Lowered α}
    (hf : ∀ c e, c.IsPartOf m → s.expr c = .ok e → s.Reports m (f c e)) :
    s.Reports m (s.node n role >>= fun c => s.expr c >>= f c) := by
  apply hs.node hn
  intro c _ hc
  exact (hs.expr hc).bind fun e he => hf c e hc he

/-- A subtree that is lowered as a statement. -/
theorem body (hs : s.Locates m) (hn : n.IsPartOf m) {f : Node → Stmt → Lowered α}
    (hf : ∀ c x, s.Reports m (f c x)) :
    s.Reports m (s.node n role >>= fun c => s.stmt c >>= f c) := by
  apply hs.node hn
  intro c _ hc
  exact (hs.stmt hc).bind fun x _ => hf c x

end Scope.Locates

end GroovyLowering
