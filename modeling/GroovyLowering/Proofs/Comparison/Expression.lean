import GroovyLowering.Proofs.Comparison.Path

/-!
# Comparing expressions

Creators and interpolated strings are the last expressions with a lowering of their own.  The text
that an interpolated string keeps is made of lowered values, and a written form does not depend on
spans (`verbatimText_eq`).

`Scopes.expression` puts the expressions together.
-/

namespace GroovyLowering

namespace Comparison

variable {C : Comparison} {n m : Node} {s s' : Scope} {a b : Expr}

theorem verbatimText_eq {xs ys zs ws : List Expr}
    (hxys : xs.map (Expr.mapSpans C.span) = ys.map (Expr.mapSpans C.span))
    (hzws : zs.map (Expr.mapSpans C.span) = ws.map (Expr.mapSpans C.span)) :
    verbatimText xs zs = verbatimText ys ws := by
  rw [← verbatimText_mapSpans C.span, hxys, hzws, verbatimText_mapSpans]

theorem dotted_eq (hab : a.mapSpans C.span = b.mapSpans C.span) {t u : Token}
    (htu : C.SameToken t u) :
    (a.dotted t).mapSpans C.span = (b.dotted u).mapSpans C.span := by
  rw [Expr.dotted, Expr.dotted, htu.text_eq]
  simp [hab, htu.span_eq, Expr.symbol_mapSpans]

theorem segment_eq (decode : List Char → List Char) {t u : Token} (htu : C.SameToken t u) :
    (Scope.segment decode t).mapSpans C.span = (Scope.segment decode u).mapSpans C.span := by
  rw [Scope.segment, Scope.segment, htu.text_eq]
  exact symbol_eq rfl htu.span_eq

namespace Scopes

/-! ## Creators -/

theorem createdType (hs : C.Scopes s s') (h : C.tree n m) :
    C.Agree (TypeRef.mapSpans C.span) (s.createdType n) (s'.createdType m) := by
  have hspan := C.span_eq h
  rcases token?_cases h .primitive (by decide) with ⟨hn, hm⟩ | ⟨t, u, hn, hm, htu⟩
  · simp only [Scope.createdType, hn, hm]
    refine hs.bindNode h fun name name' hname => ?_
    have hshape := (TypeRef.mapSpans_eq_iff.1 (namedType_eq hname)).1
    refine (hs.typeArguments? h).bind fun ts us htu => ?_
    cases ts with
    | none =>
      cases us with
      | none => exact Agree.pure (TypeRef.mapSpans_eq_iff.2 ⟨hshape, hspan⟩)
      | some us => simp at htu
    | some ts =>
      cases us with
      | none => simp at htu
      | some us =>
        refine Agree.pure (TypeRef.mapSpans_eq_iff.2 ⟨?_, hspan⟩)
        simp only [TypeShape.withGenerics_mapSpans, hshape, htu]
  · simp only [Scope.createdType, hn, hm]
    exact Agree.ok (by simp [htu.text_eq, hspan])

theorem creator (hs : C.Scopes s s') (h : C.tree n m) :
    C.Agree (Expr.mapSpans C.span) (s.creator n) (s'.creator m) := by
  have hspan := C.span_eq h
  have hdimension : n.has .dimension = m.has .dimension := C.has_eq h (by decide)
  have hopen : n.has .emptyDimension = m.has .emptyDimension := C.has_eq h (by decide)
  refine hs.bindNode h fun name name' hname => ?_
  refine (hs.createdType hname).bind fun type type' htype => ?_
  rcases node?_cases h .arguments with ⟨hn, hm⟩ | ⟨c, d, hn, hm, hcd⟩
  · simp only [hn, hm, hdimension, hopen]
    split
    · refine Agree.bind (k := List.map (Expr.mapSpans C.span))
        (Agree.mapM (C.nodes h _) fun _ _ => hs.expr) fun xs ys hxys => Agree.pure ?_
      have hnulls : ((n.tokens .emptyDimension).map fun t => Expr.null t.span).map
            (Expr.mapSpans C.span) =
          ((m.tokens .emptyDimension).map fun t => Expr.null t.span).map
            (Expr.mapSpans C.span) := by
        rw [List.map_map, List.map_map]
        refine map_eq_of_forall₂ (C.tokens h (by decide)) fun t u htu => ?_
        simp [Expr.null, Expr.constant, htu.2.2]
      simp only [Expr.mapSpans, ExprShape.mapSpans, mapSpansInExprs_eq, List.map_append, htype,
        hxys, hnulls, hspan]
    · exact hs.refuse h _
  · simp only [hn, hm]
    exact (hs.arguments hcd).bind fun x y hxy => Agree.pure (by simp [htype, hxy, hspan])

/-! ## Interpolated strings -/

theorem gstringPath (hs : C.Scopes s s') (h : C.tree n m) :
    C.Agree (Expr.mapSpans C.span) (s.gstringPath n) (s'.gstringPath m) := by
  refine hs.bindToken h (by decide) fun t u htu => Agree.pure ?_
  have hfold : ∀ {ts us : List Token}, List.Forall₂ C.SameToken ts us → ∀ {a b : Expr},
      a.mapSpans C.span = b.mapSpans C.span →
        (ts.foldl Expr.dotted a).mapSpans C.span = (us.foldl Expr.dotted b).mapSpans C.span := by
    intro ts us htus
    induction htus with
    | nil => exact fun hab => hab
    | cons htu _ ih => exact fun hab => ih (dotted_eq hab htu)
  exact hfold (C.tokens h (by decide)) (named_eq htu.text_eq htu.span_eq)

theorem gstringValue (hs : C.Scopes s s') (h : C.tree n m) :
    C.Agree (Expr.mapSpans C.span) (s.gstringValue n) (s'.gstringValue m) := by
  have hspan := C.span_eq h
  rcases node?_cases h .path with ⟨hn, hm⟩ | ⟨c, d, hn, hm, hcd⟩
  · rcases node?_cases h .expression with ⟨hn', hm'⟩ | ⟨c, d, hn', hm', hcd⟩
    · rcases node?_cases h .closure with ⟨hn'', hm''⟩ | ⟨c, d, hn'', hm'', hcd⟩
      · simp only [Scope.gstringValue, hn, hm, hn', hm', hn'', hm'']
        exact Agree.ok (by simp [Expr.null, Expr.constant, hspan])
      · have harrow : c.has .arrow = d.has .arrow := C.has_eq hcd (by decide)
        simp only [Scope.gstringValue, hn, hm, hn', hm', hn'', hm'', harrow]
        refine (hs.closure hcd).bind fun a b hab => ?_
        split
        · exact Agree.pure (withSpan_eq hab hspan)
        · exact Agree.pure (by simp [hab, hspan, Expr.symbol_mapSpans])
    · simp only [Scope.gstringValue, hn, hm, hn', hm']
      exact (hs.expr hcd).bind fun a b hab => Agree.pure (withSpan_eq hab hspan)
  · simp only [Scope.gstringValue, hn, hm]
    exact (hs.gstringPath hcd).bind fun a b hab => Agree.pure (withSpan_eq hab hspan)

theorem gstring (hs : C.Scopes s s') (h : C.tree n m) :
    C.Agree (Expr.mapSpans C.span) (s.gstring n) (s'.gstring m) := by
  refine hs.bindToken h (by decide) fun first first' hfirst => ?_
  refine hs.bindToken h (by decide) fun last last' hlast => ?_
  simp only [hfirst.text_eq]
  have hparts : ∀ decode, ((n.tokens .part).map (Scope.segment decode)).map
        (Expr.mapSpans C.span) =
      ((m.tokens .part).map (Scope.segment decode)).map (Expr.mapSpans C.span) := by
    intro decode
    rw [List.map_map, List.map_map]
    exact map_eq_of_forall₂ (C.tokens h (by decide)) fun t u htu => segment_eq decode htu
  refine Agree.bind (k := List.map (Expr.mapSpans C.span))
    (Agree.mapM (C.nodes h _) fun _ _ => hs.gstringValue) fun xs ys hxys => Agree.pure ?_
  generalize hmode : Literal.EscapeMode.of first'.text.toList = mode
  have hstrings : (Scope.segment (Literal.Segment.opening mode) first ::
        ((n.tokens .part).map (Scope.segment (Literal.Segment.part mode)) ++
          [Scope.segment (Literal.Segment.closing mode) last])).map (Expr.mapSpans C.span) =
      (Scope.segment (Literal.Segment.opening mode) first' ::
        ((m.tokens .part).map (Scope.segment (Literal.Segment.part mode)) ++
          [Scope.segment (Literal.Segment.closing mode) last'])).map (Expr.mapSpans C.span) := by
    simp only [List.map_cons, List.map_append, List.map_nil, hparts, segment_eq _ hfirst,
      segment_eq _ hlast]
  simp only [Expr.mapSpans, ExprShape.mapSpans, mapSpansInExprs_eq, hstrings, hxys,
    verbatimText_eq hstrings hxys, C.span_eq h]

/-! ## All expressions -/

theorem parenthesized (hs : C.Scopes s s') (h : C.tree n m) :
    C.Agree (Expr.mapSpans C.span) (s.parenthesized n) (s'.parenthesized m) := by
  refine hs.bindNode h fun c d hcd => (hs.expr hcd).bind fun a b hab => Agree.pure ?_
  exact Expr.mapSpans_eq_iff.2 ⟨(Expr.mapSpans_eq_iff.1 hab).1, C.span_eq h, rfl⟩

theorem list (hs : C.Scopes s s') (h : C.tree n m) :
    C.Agree (Expr.mapSpans C.span) (s.list n) (s'.list m) :=
  (hs.elements h).bind fun x y hxy => Agree.pure (by simp [hxy, hs.spanOf h])

theorem map (hs : C.Scopes s s') (h : C.tree n m) :
    C.Agree (Expr.mapSpans C.span) (s.map n) (s'.map m) :=
  (hs.mapEntries h).bind fun x y hxy => Agree.pure (by simp [hxy, hs.spanOf h])

theorem nameOf (hs : C.Scopes s s') (h : C.tree n m) {role : Role} (hrole : role ≠ .punct) :
    C.Agree (Expr.mapSpans C.span) (s.nameOf n role) (s'.nameOf m role) :=
  hs.bindToken h hrole fun _ _ htu => Agree.pure (named_eq htu.text_eq (hs.spanOf h))

theorem expression (hs : C.Scopes s s') (h : C.tree n m) :
    C.Agree (Expr.mapSpans C.span) (s.expression n) (s'.expression m) := by
  have hspan := hs.spanOf h
  rw [Scope.expression, Scope.expression, C.kind_eq h]
  split
  · exact hs.path h
  · exact hs.command h
  · exact hs.element h
  · exact hs.stepAfter h
  · exact hs.unary h
  · exact hs.negation h
  · exact hs.cast h
  · exact hs.binary h
  · exact hs.typeTest h
  · exact hs.conditional h
  · exact hs.assignment h
  · exact hs.nameOf h (by decide)
  · exact hs.literal h
  · exact hs.gstring h
  · exact hs.creator h
  · exact Agree.ok (named_eq rfl hspan)
  · exact Agree.ok (named_eq rfl hspan)
  · exact hs.parenthesized h
  · exact hs.list h
  · exact hs.map h
  · exact hs.nameOf h (by decide)
  · exact hs.closure h
  · exact hs.refuse h _

end Scopes

end Comparison

end GroovyLowering
