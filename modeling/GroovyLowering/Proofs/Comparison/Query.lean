import GroovyLowering.Proofs.Comparison.Basic

/-!
# Comparing what two lowerings read of their trees

A lowering reads a tree through its scope: it asks for a child or a token of a role, for the place
of a node, and refuses a node.  Two scopes are comparable (`Scopes`) when what lies one level
further in agrees.  Then every such step agrees on trees that are alike.

A child may be there or not, and that is the same for both trees.  `node?_cases` and `token?_cases`
split a comparison along this question.
-/

namespace GroovyLowering

namespace Comparison

variable {C : Comparison} {α γ : Type} {n m : Node} {role : Role}

/-- Two scopes whose next levels agree on trees that are alike. -/
structure Scopes (C : Comparison) (s s' : Scope) : Prop where
  enclosing : C.span s.enclosing = C.span s'.enclosing
  expr : ∀ {n m : Node}, C.tree n m →
    C.Agree (Expr.mapSpans C.span) (s.expr n) (s'.expr m)
  stmt : ∀ {n m : Node}, C.tree n m →
    C.Agree (Stmt.mapSpans C.span) (s.stmt n) (s'.stmt m)

/-! ## Children and tokens that may be missing -/

theorem forall₂_head?_cases {ξ : Type} {R : ξ → ξ → Prop} {xs ys : List ξ}
    (h : List.Forall₂ R xs ys) :
    (xs.head? = none ∧ ys.head? = none) ∨ ∃ x y, xs.head? = some x ∧ ys.head? = some y ∧ R x y := by
  cases h with
  | nil => exact Or.inl ⟨rfl, rfl⟩
  | cons hxy _ => exact Or.inr ⟨_, _, rfl, rfl, hxy⟩

theorem node?_cases (h : C.tree n m) (role : Role) :
    (n.node? role = none ∧ m.node? role = none) ∨
      ∃ c d, n.node? role = some c ∧ m.node? role = some d ∧ C.tree c d :=
  forall₂_head?_cases (C.nodes h role)

theorem token?_cases (h : C.tree n m) (role : Role) (hrole : role ≠ .punct) :
    (n.token? role = none ∧ m.token? role = none) ∨
      ∃ t u, n.token? role = some t ∧ m.token? role = some u ∧ C.SameToken t u :=
  forall₂_head?_cases (C.tokens h hrole)

theorem isSome_node? (h : C.tree n m) (role : Role) :
    (n.node? role).isSome = (m.node? role).isSome := by
  rcases node?_cases h role with ⟨hn, hm⟩ | ⟨c, d, hn, hm, _⟩
  · rw [hn, hm]
  · rw [hn, hm, Option.isSome_some, Option.isSome_some]

/-- The texts of the tokens of a role are the same. -/
theorem texts_eq (h : C.tree n m) (hrole : role ≠ .punct) :
    (n.tokens role).map Token.text = (m.tokens role).map Token.text :=
  map_eq_of_forall₂ (C.tokens h hrole) fun _ _ htu => htu.2.1

theorem length_tokens (h : C.tree n m) (hrole : role ≠ .punct) :
    (n.tokens role).length = (m.tokens role).length :=
  (C.tokens h hrole).length_eq

theorem text?_eq (h : C.tree n m) (hrole : role ≠ .punct) :
    (n.token? role).map Token.text = (m.token? role).map Token.text := by
  rcases token?_cases h _ hrole with ⟨hn, hm⟩ | ⟨t, u, hn, hm, htu⟩
  · rw [hn, hm]
  · rw [hn, hm, Option.map_some, Option.map_some, htu.text_eq]

/-- A question about the text of a token has the same answer. -/
theorem any_token?_eq (h : C.tree n m) (role : Role) (hrole : role ≠ .punct)
    (p : String → Bool) :
    ((n.token? role).any fun t => p t.text) = (m.token? role).any fun t => p t.text := by
  rcases token?_cases h _ hrole with ⟨hn, hm⟩ | ⟨t, u, hn, hm, htu⟩
  · rw [hn, hm]
  · rw [hn, hm, Option.any_some, Option.any_some, htu.text_eq]

theorem parts_eq (h : C.tree n m) : n.parts = m.parts := texts_eq h (by decide)

theorem dottedName_eq (h : C.tree n m) : n.dottedName = m.dottedName := by
  rw [Node.dottedName, Node.dottedName, parts_eq h]

/-! ## The steps of a scope -/

namespace Scopes

variable {s s' : Scope} {k : α → γ}

theorem spanOf (hs : C.Scopes s s') (h : C.tree n m) : C.span (s.spanOf n) = C.span (s'.spanOf m) :=
  C.spanOr_eq h hs.enclosing

theorem refuse (hs : C.Scopes s s') (h : C.tree n m) (complaint : Complaint) :
    C.Agree k (s.refuse n complaint) (s'.refuse m complaint) := by
  refine Agree.error ?_
  simp only [Scope.complaint, Comparison.error, C.quote_eq h, hs.spanOf h]

/-- A step that needs a subtree agrees if what is done with the subtree does. -/
theorem bindNode {f g : Node → Lowered α} (hs : C.Scopes s s') (h : C.tree n m)
    (hfg : ∀ c d, C.tree c d → C.Agree k (f c) (g d)) :
    C.Agree k (s.node n role >>= f) (s'.node m role >>= g) := by
  rcases node?_cases h role with ⟨hn, hm⟩ | ⟨c, d, hn, hm, hcd⟩
  · simp only [Scope.node, hn, hm]
    rw [C.kind_eq h]
    exact hs.refuse h _
  · simp only [Scope.node, hn, hm]
    exact hfg c d hcd

/-- A step that needs a token agrees if what is done with the token does. -/
theorem bindToken {f g : Token → Lowered α} (hs : C.Scopes s s') (h : C.tree n m)
    (hrole : role ≠ .punct) (hfg : ∀ t u, C.SameToken t u → C.Agree k (f t) (g u)) :
    C.Agree k (s.token n role >>= f) (s'.token m role >>= g) := by
  rcases token?_cases h _ hrole with ⟨hn, hm⟩ | ⟨t, u, hn, hm, htu⟩
  · simp only [Scope.token, hn, hm]
    rw [C.kind_eq h]
    exact hs.refuse h _
  · simp only [Scope.token, hn, hm]
    exact hfg t u htu

theorem expr? (hs : C.Scopes s s') (h : C.tree n m) :
    C.Agree (Option.map (Expr.mapSpans C.span)) (s.expr? n role) (s'.expr? m role) := by
  rcases node?_cases h role with ⟨hn, hm⟩ | ⟨c, d, hn, hm, hcd⟩
  · simp only [Scope.expr?, hn, hm]
    exact Agree.ok rfl
  · simp only [Scope.expr?, hn, hm]
    refine (hs.expr hcd).bind fun a b hab => Agree.pure ?_
    rw [Option.map_some, Option.map_some, hab]

/-- What a step makes of its operands agrees if the operands look the same. -/
theorem shapeOr (hs : C.Scopes s s') (h : C.tree n m) (complaint : Complaint)
    (x y : Option ExprShape) :
    x.map (ExprShape.mapSpans C.span) = y.map (ExprShape.mapSpans C.span) →
      C.Agree (Expr.mapSpans C.span)
        (match x with
          | some shape => Pure.pure { shape, span := n.span }
          | none => s.refuse n complaint)
        (match y with
          | some shape => Pure.pure { shape, span := m.span }
          | none => s'.refuse m complaint) := by
  intro hxy
  cases x with
  | none =>
    cases y with
    | none => exact hs.refuse h _
    | some b => simp at hxy
  | some a =>
    cases y with
    | none => simp at hxy
    | some b => exact Agree.pure (by simp_all [C.span_eq h])

end Scopes

end Comparison

end GroovyLowering
