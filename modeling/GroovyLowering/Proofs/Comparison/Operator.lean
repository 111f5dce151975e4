import GroovyLowering.Proofs.Comparison.Block

/-!
# Comparing literals and operators

Two of these lowerings look at an operand after it is lowered: a sign looks for a constant to fold
into, and an assignment looks at its target.  Neither looks at a span, so both decide alike
(`foldable?_eq`, `isAssignable_eq`).
-/

namespace GroovyLowering

namespace Comparison

variable {C : Comparison} {n m : Node} {s s' : Scope} {a b : Expr}

theorem foldable?_eq (hab : a.mapSpans C.span = b.mapSpans C.span) :
    a.foldable? = b.foldable? := by
  rw [← Expr.foldable?_mapSpans C.span, hab, Expr.foldable?_mapSpans]

theorem isAssignable_eq (hab : a.mapSpans C.span = b.mapSpans C.span) :
    a.isAssignable = b.isAssignable := by
  rw [← Expr.isAssignable_mapSpans C.span, hab, Expr.isAssignable_mapSpans]

theorem withSpan_eq (hab : a.mapSpans C.span = b.mapSpans C.span) {p q : Span}
    (hpq : C.span p = C.span q) :
    (a.withSpan p).mapSpans C.span = (b.withSpan q).mapSpans C.span := by
  rw [Expr.withSpan_mapSpans, Expr.withSpan_mapSpans, hab, hpq]

theorem binaryShape?_eq (hab : a.mapSpans C.span = b.mapSpans C.span) {x y : Expr}
    (hxy : x.mapSpans C.span = y.mapSpans C.span) (op : String) :
    (Scope.binaryShape? a op x).map (ExprShape.mapSpans C.span) =
      (Scope.binaryShape? b op y).map (ExprShape.mapSpans C.span) := by
  rw [binaryShape?_mapSpans, binaryShape?_mapSpans, hab, hxy]

namespace Scopes

/-! ## Literals -/

theorem number (hs : C.Scopes s s') (h : C.tree n m)
    (read : Except Literal.NumberError Literal.Number) :
    C.Agree id (s.number n read) (s'.number m read) := by
  cases read with
  | ok value => exact Agree.ok rfl
  | error e => exact hs.refuse h _

theorem literalValue (hs : C.Scopes s s') (h : C.tree n m) {t u : Token} (htu : C.SameToken t u) :
    C.Agree id (s.literalValue n t) (s'.literalValue m u) := by
  rw [Scope.literalValue, Scope.literalValue, htu.kind_eq, htu.text_eq]
  split
  · exact (hs.number h _).bind fun x y hxy => Agree.pure (by rw [show x = y from hxy])
  · split
    · exact (hs.stringValue h htu).bind fun x y hxy => Agree.pure (by rw [show x = y from hxy])
    · exact Agree.ok rfl
    · exact Agree.ok rfl
    · exact hs.refuse h _

theorem literal (hs : C.Scopes s s') (h : C.tree n m) :
    C.Agree (Expr.mapSpans C.span) (s.literal n) (s'.literal m) := by
  refine hs.bindToken h (by decide) fun t u htu => ?_
  refine (hs.literalValue h htu).bind fun x y hxy => Agree.pure ?_
  obtain rfl : x = y := hxy
  simp [Expr.constant, C.span_eq h]

theorem signFlipped? (hs : C.Scopes s s') (h : C.tree n m) :
    C.Agree id (s.signFlipped? n) (s'.signFlipped? m) := by
  rw [Scope.signFlipped?, Scope.signFlipped?, C.kind_eq h]
  split
  · rcases token?_cases h .literal (by decide) with ⟨hn, hm⟩ | ⟨t, u, hn, hm, htu⟩
    · simp only [hn, hm]
      exact Agree.ok rfl
    · simp only [hn, hm, htu.kind_eq, htu.text_eq]
      split
      · exact (hs.number h _).bind fun x y hxy => Agree.pure (by rw [show x = y from hxy])
      · exact Agree.ok rfl
  · exact Agree.ok rfl

/-! ## Signs and steps -/

theorem stepAfter (hs : C.Scopes s s') (h : C.tree n m) :
    C.Agree (Expr.mapSpans C.span) (s.stepAfter n) (s'.stepAfter m) := by
  refine hs.bindNode h fun c d hcd => (hs.expr hcd).bind fun a b hab => ?_
  refine hs.bindToken h (by decide) fun t u htu => ?_
  rw [htu.text_eq]
  split
  · exact Agree.pure (by simp [hab, hs.spanOf h])
  · exact hs.refuse h _

theorem negateConstant (hs : C.Scopes s s') (h : C.tree n m) {c d : Node} (hcd : C.tree c d)
    (value : Constant) :
    C.Agree (Expr.mapSpans C.span) (s.negateConstant n c value) (s'.negateConstant m d value) := by
  rw [Scope.negateConstant, Scope.negateConstant]
  split
  · refine (hs.signFlipped? hcd).bind fun x y hxy => Agree.pure ?_
    obtain rfl : x = y := hxy
    simp [Expr.constant, C.span_eq h]
  · exact Agree.error (by simp only [error, C.span_eq h])

theorem unary (hs : C.Scopes s s') (h : C.tree n m) :
    C.Agree (Expr.mapSpans C.span) (s.unary n) (s'.unary m) := by
  have hspan := C.span_eq h
  refine hs.bindToken h (by decide) fun t u htu => hs.bindNode h fun c d hcd => ?_
  refine (hs.expr hcd).bind fun a b hab => ?_
  rw [htu.text_eq, foldable?_eq hab]
  split
  · split
    · exact Agree.pure (withSpan_eq hab hspan)
    · exact Agree.pure (by simp [hab, hspan])
  · split
    · split
      · exact hs.negateConstant h hcd _
      · exact Agree.pure (by simp [hab, hspan])
    · split
      · exact Agree.pure (by simp [hab, hspan])
      · exact hs.refuse h _

theorem negation (hs : C.Scopes s s') (h : C.tree n m) :
    C.Agree (Expr.mapSpans C.span) (s.negation n) (s'.negation m) := by
  refine hs.bindNode h fun c d hcd => (hs.expr hcd).bind fun a b hab => ?_
  refine hs.bindToken h (by decide) fun t u htu => ?_
  rw [htu.text_eq]
  split
  · exact Agree.pure (by simp [hab, hs.spanOf h])
  · split
    · exact Agree.pure (by simp [hab, hs.spanOf h])
    · exact hs.refuse h _

/-! ## Operators between two operands -/

theorem binary (hs : C.Scopes s s') (h : C.tree n m) :
    C.Agree (Expr.mapSpans C.span) (s.binary n) (s'.binary m) := by
  refine hs.bindNode h fun c d hcd => (hs.expr hcd).bind fun a b hab => ?_
  refine hs.bindNode h fun c d hcd => (hs.expr hcd).bind fun x y hxy => ?_
  rw [texts_eq h (by decide)]
  exact hs.shapeOr h _ _ _ (binaryShape?_eq hab hxy _)

theorem assignment (hs : C.Scopes s s') (h : C.tree n m) :
    C.Agree (Expr.mapSpans C.span) (s.assignment n) (s'.assignment m) := by
  refine hs.bindNode h fun c d hcd => (hs.expr hcd).bind fun a b hab => ?_
  rw [isAssignable_eq hab]
  split
  · refine hs.bindToken h (by decide) fun t u htu => ?_
    rw [htu.text_eq]
    split
    · refine hs.bindNode h fun c d hcd => (hs.expr hcd).bind fun x y hxy => Agree.pure ?_
      simp [hab, hxy, C.span_eq h]
    · exact hs.refuse h _
  · exact Agree.error (by simp only [error, C.span_eq hcd])

/-! ## Types as operands and choices -/

theorem cast (hs : C.Scopes s s') (h : C.tree n m) :
    C.Agree (Expr.mapSpans C.span) (s.cast n) (s'.cast m) := by
  refine hs.bindNode h fun c d hcd => (hs.typeRef hcd).bind fun type type' htype => ?_
  refine hs.bindNode h fun c d hcd => (hs.expr hcd).bind fun a b hab => Agree.pure ?_
  simp [htype, hab, hs.spanOf h]

theorem typeTest (hs : C.Scopes s s') (h : C.tree n m) :
    C.Agree (Expr.mapSpans C.span) (s.typeTest n) (s'.typeTest m) := by
  refine hs.bindNode h fun c d hcd => (hs.expr hcd).bind fun a b hab => ?_
  refine hs.bindNode h fun c d hcd => (hs.typeRef hcd).bind fun type type' htype => ?_
  refine hs.bindToken h (by decide) fun t u htu => ?_
  rw [htu.text_eq]
  split
  · exact Agree.pure (by simp [htype, hab, hs.spanOf h])
  · split
    · exact Agree.pure (by simp [htype, hab, hs.spanOf h, C.span_eq hcd])
    · exact hs.refuse h _

theorem conditional (hs : C.Scopes s s') (h : C.tree n m) :
    C.Agree (Expr.mapSpans C.span) (s.conditional n) (s'.conditional m) := by
  refine hs.bindNode h fun condition condition' hcondition => ?_
  refine (hs.expr hcondition).bind fun a b hab => ?_
  refine hs.bindNode h fun c d hcd => (hs.expr hcd).bind fun no no' hno => ?_
  rw [any_token?_eq h .operator (by decide) (· == "?:")]
  split
  · exact Agree.pure (by simp [hab, hno, hs.spanOf h])
  · refine hs.bindNode h fun c d hcd => (hs.expr hcd).bind fun yes yes' hyes => Agree.pure ?_
    simp [Expr.truth, hab, hyes, hno, hs.spanOf h, C.span_eq hcondition]

end Scopes

end Comparison

end GroovyLowering
