import GroovyLowering.Lower.Callable
import GroovyLowering.Proofs.Comparison.Declaration

/-!
# Comparing statement lists, closures and methods

A statement of a list gives several statements, so what is compared is the list of all of them.
Closures and methods are what such a list is the body of.
-/

namespace GroovyLowering

namespace Comparison

variable {C : Comparison} {n m : Node} {s s' : Scope}

theorem map_withLabel_eq (label : String) {xs ys : List Stmt}
    (h : xs.map (Stmt.mapSpans C.span) = ys.map (Stmt.mapSpans C.span)) :
    (xs.map (Stmt.withLabel label)).map (Stmt.mapSpans C.span) =
      (ys.map (Stmt.withLabel label)).map (Stmt.mapSpans C.span) := by
  have hcomm : ∀ x : Stmt,
      (x.withLabel label).mapSpans C.span = (x.mapSpans C.span).withLabel label := by
    intro x
    cases x
    rfl
  have := congrArg (List.map (Stmt.withLabel label)) h
  simpa [hcomm, Function.comp_def] using this

theorem block_eq {xs ys : List Stmt} {p q : Span}
    (h : xs.map (Stmt.mapSpans C.span) = ys.map (Stmt.mapSpans C.span))
    (hpq : C.span p = C.span q) :
    (Stmt.block xs p).mapSpans C.span = (Stmt.block ys q).mapSpans C.span := by
  simp [Stmt.block, h, hpq]

namespace Scopes

/-! ## Statement lists -/

theorem blockStatement {n m : Node} (hs : C.Scopes s s') (h : C.tree n m) :
    C.Agree (List.map (Stmt.mapSpans C.span)) (s.blockStatement n) (s'.blockStatement m) := by
  rw [Scope.blockStatement_eq, Scope.blockStatement_eq, C.kind_eq h]
  split
  · exact hs.localVariable h
  · refine hs.bindToken h (by decide) fun t u htu => ?_
    rcases node?_cases h .statement with ⟨hn, hm⟩ | ⟨c, d, hn, hm, hcd⟩
    · simp only [hn, hm]
      exact hs.refuse h _
    · simp only [hn, hm]
      have := Node.size_lt_of_node? hn
      refine (blockStatement hs hcd).bind fun xs ys hxys => Agree.pure ?_
      rw [htu.text_eq]
      exact map_withLabel_eq _ hxys
  · exact hs.refuse h _
  · exact hs.refuse h _
  · refine (hs.stmt h).bind fun x y hxy => Agree.pure ?_
    rw [List.map_singleton, List.map_singleton, hxy]
termination_by n.size

theorem statements (hs : C.Scopes s s') (h : C.tree n m) :
    C.Agree (List.map (Stmt.mapSpans C.span)) (s.statements n) (s'.statements m) := by
  refine Agree.bind (k := List.map (List.map (Stmt.mapSpans C.span)))
    (Agree.mapM (C.nodes h _) fun _ _ => hs.blockStatement) fun xs ys hxys => Agree.pure ?_
  rw [List.map_flatten, List.map_flatten, hxys]

theorem block (hs : C.Scopes s s') (h : C.tree n m) :
    C.Agree (Stmt.mapSpans C.span) (s.block n) (s'.block m) :=
  (hs.statements h).bind fun _ _ hxys => Agree.pure (block_eq hxys (C.span_eq h))

theorem body (hs : C.Scopes s s') (h : C.tree n m) {p q : Span} (hpq : C.span p = C.span q) :
    C.Agree (Stmt.mapSpans C.span) (s.body n p) (s'.body m q) := by
  rcases node?_cases h .body with ⟨hn, hm⟩ | ⟨c, d, hn, hm, hcd⟩
  · simp only [Scope.body, hn, hm]
    exact Agree.ok (block_eq rfl hpq)
  · simp only [Scope.body, hn, hm]
    exact (hs.statements hcd).bind fun _ _ hxys =>
      Agree.pure (block_eq hxys (C.spanOr_eq hcd hpq))

/-! ## Parameters and closures -/

theorem variadic (h : C.tree n m) {t u : TypeRef} (htu : t.mapSpans C.span = u.mapSpans C.span) :
    (Scope.variadic n t).mapSpans C.span = (Scope.variadic m u).mapSpans C.span := by
  rcases token?_cases h .ellipsis (by decide) with ⟨hn, hm⟩ | ⟨d, e, hn, hm, hde⟩
  · simp only [Scope.variadic, hn, hm, htu]
  · simp only [Scope.variadic, hn, hm]
    have harray : t.arrayOf.mapSpans C.span = u.arrayOf.mapSpans C.span := by
      rw [TypeRef.arrayOf_mapSpans, TypeRef.arrayOf_mapSpans, htu]
    exact TypeRef.mapSpans_eq_iff.2 ⟨(TypeRef.mapSpans_eq_iff.1 harray).1, hde.span_eq⟩

theorem parameter (hs : C.Scopes s s') (h : C.tree n m) :
    C.Agree (Parameter.mapSpans C.span) (s.parameter n) (s'.parameter m) := by
  refine (hs.modifiers h).bind fun a b hab => hs.bindToken h (by decide) fun t u htu => ?_
  refine (hs.typeOr h htu).bind fun type type' htype => ?_
  refine (hs.expr? h).bind fun x y hxy => Agree.pure ?_
  simp [ModifierSet.applyToParameter, flags_eq hab, attached_eq hab, htu.text_eq, variadic h htype,
    hxy, C.span_eq h]

theorem closureParameters (hs : C.Scopes s s') (h : C.tree n m) :
    C.Agree (ClosureParameters.mapSpans C.span) (s.closureParameters n)
      (s'.closureParameters m) := by
  rw [Scope.closureParameters, Scope.closureParameters, C.has_eq h (by decide)]
  split
  · refine Agree.bind (k := List.map (Parameter.mapSpans C.span))
      (Agree.mapM (C.nodes h _) fun _ _ => hs.parameter) fun xs ys hxys => Agree.pure ?_
    simp [hxys]
  · exact Agree.ok rfl

theorem closure (hs : C.Scopes s s') (h : C.tree n m) :
    C.Agree (Expr.mapSpans C.span) (s.closure n) (s'.closure m) := by
  refine (hs.closureParameters h).bind fun a b hab => ?_
  refine (hs.body h (C.span_eq h)).bind fun x y hxy => Agree.pure ?_
  simp [hab, hxy, C.span_eq h]

/-! ## Methods -/

theorem stringValue (hs : C.Scopes s s') (h : C.tree n m) {t u : Token} (htu : C.SameToken t u) :
    C.Agree id (s.stringValue n t) (s'.stringValue m u) := by
  rw [Scope.stringValue, Scope.stringValue, htu.text_eq]
  split
  · exact Agree.ok rfl
  · exact hs.refuse h _

theorem methodName (hs : C.Scopes s s') (h : C.tree n m) {t u : Token} (htu : C.SameToken t u) :
    C.Agree id (s.methodName n t) (s'.methodName m u) := by
  rw [Scope.methodName, Scope.methodName, htu.kind_eq]
  split
  · exact hs.stringValue h htu
  · exact Agree.ok htu.text_eq

theorem returnType (hs : C.Scopes s s') (h : C.tree n m) {t u : Token} (htu : C.SameToken t u) :
    C.Agree (TypeRef.mapSpans C.span) (s.returnType n t) (s'.returnType m u) := by
  rcases node?_cases h .returnType with ⟨hn, hm⟩ | ⟨c, d, hn, hm, hcd⟩
  · simp only [Scope.returnType, hn, hm]
    exact Agree.ok (by simp [TypeRef.dynamic, htu.span_eq])
  · simp only [Scope.returnType, hn, hm]
    rcases node?_cases hcd .type with ⟨hn, hm⟩ | ⟨c', d', hn, hm, hcd'⟩
    · simp only [hn, hm, any_token?_eq hcd .keyword (by decide) (· == "void")]
      split
      · exact Agree.ok (by simp [C.span_eq hcd])
      · exact hs.refuse hcd _
    · simp only [hn, hm]
      exact hs.typeRef hcd'

theorem exceptions (h : C.tree n m) :
    (Scope.exceptions n).map (TypeRef.mapSpans C.span) =
      (Scope.exceptions m).map (TypeRef.mapSpans C.span) := by
  rcases node?_cases h .throws with ⟨hn, hm⟩ | ⟨c, d, hn, hm, hcd⟩
  · simp only [Scope.exceptions, hn, hm]
  · simp only [Scope.exceptions, hn, hm, List.map_map]
    exact map_eq_of_forall₂ (C.nodes hcd _) fun x y hxy => namedType_eq hxy

theorem methodBody (hs : C.Scopes s s') (h : C.tree n m) :
    C.Agree (Option.map (Stmt.mapSpans C.span)) (s.methodBody n) (s'.methodBody m) := by
  rcases node?_cases h .body with ⟨hn, hm⟩ | ⟨c, d, hn, hm, hcd⟩
  · simp only [Scope.methodBody, hn, hm]
    exact Agree.ok rfl
  · simp only [Scope.methodBody, hn, hm]
    refine (hs.block hcd).bind fun x y hxy => Agree.pure ?_
    rw [Option.map_some, Option.map_some, hxy]

theorem method (hs : C.Scopes s s') (h : C.tree n m) :
    C.Agree (MethodDecl.mapSpans C.span) (s.method n) (s'.method m) := by
  refine (hs.modifiers h).bind fun a b hab => hs.bindToken h (by decide) fun t u htu => ?_
  refine (hs.methodName h htu).bind fun name name' hname => ?_
  refine (hs.returnType h htu).bind fun type type' htype => hs.bindNode h fun c d hcd => ?_
  refine Agree.bind (k := List.map (Parameter.mapSpans C.span))
    (Agree.mapM (C.nodes hcd _) fun _ _ => hs.parameter) fun xs ys hxys => ?_
  refine (hs.methodBody h).bind fun body body' hbody => Agree.pure ?_
  obtain rfl : name = name' := hname
  simp [MethodDecl.mapSpans, ModifierSet.applyToMethod, Scope.publicUnless, flags_eq hab,
    attached_eq hab, hasVisibility_eq hab, visibilityFacts_eq hab, isSome_node? h, htype, hxys,
    exceptions h, hbody, C.span_eq h]

end Scopes

end Comparison

end GroovyLowering
