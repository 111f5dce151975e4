import GroovyLowering.Proofs.Comparison.Query
import GroovyLowering.Proofs.Equations

/-!
# Comparing types

Types are lowered by four functions that call each other on subtrees.  The theorems follow that
recursion, one for each of them.
-/

namespace GroovyLowering

namespace Comparison

variable {C : Comparison} {n m : Node} {s s' : Scope}

/-- The subtrees of a role correspond, and those of the first tree are subtrees of it. -/
theorem nodes_mem (h : C.tree n m) (role : Role) :
    List.Forall₂ (fun c d => c ∈ n.nodes role ∧ C.tree c d) (n.nodes role) (m.nodes role) :=
  List.forall₂_and_left (p := fun c => c ∈ n.nodes role) _ _ |>.2 ⟨fun _ hc => hc, C.nodes h role⟩

theorem namedType_eq (h : C.tree n m) :
    n.namedType.mapSpans C.span = m.namedType.mapSpans C.span := by
  simp only [Node.namedType, TypeRef.named, TypeRef.mapSpans, TypeShape.mapSpans,
    dottedName_eq h, C.span_eq h]

theorem withDimensions_shape_eq {t u : TypeRef} (h : t.mapSpans C.span = u.mapSpans C.span)
    (count : Nat) :
    (t.withDimensions count).shape.mapSpans C.span =
      (u.withDimensions count).shape.mapSpans C.span := by
  have hdimensions := congrArg (TypeRef.withDimensions · count) h
  simp only [← TypeRef.withDimensions_mapSpans] at hdimensions
  exact (TypeRef.mapSpans_eq_iff.1 hdimensions).1

namespace Scopes

theorem wildcardOf (hs : C.Scopes s s') (h : C.tree n m) {bound bound' : Option TypeRef}
    (hbound : bound.map (TypeRef.mapSpans C.span) = bound'.map (TypeRef.mapSpans C.span)) :
    C.Agree (TypeArgument.mapSpans C.span) (s.wildcardOf n bound) (s'.wildcardOf m bound') := by
  have hspan := C.span_eq h
  rcases token?_cases h .keyword (by decide) with ⟨hn, hm⟩ | ⟨t, u, hn, hm, htu⟩
  · simp only [Scope.wildcardOf, hn, hm]
    exact Agree.ok (by simp [hspan])
  · simp only [Scope.wildcardOf, hn, hm, htu.text_eq]
    split
    · exact Agree.ok (by simp [hspan, hbound])
    · split
      · exact Agree.ok (by simp [hspan, hbound])
      · exact hs.refuse h _

mutual

theorem typeRef {n m : Node} (hs : C.Scopes s s') (h : C.tree n m) :
    C.Agree (TypeRef.mapSpans C.span) (s.typeRef n) (s'.typeRef m) := by
  have hspan := C.span_eq h
  rw [Scope.typeRef_eq, Scope.typeRef_eq, length_tokens h (by decide)]
  rcases node?_cases h .classType with ⟨hn, hm⟩ | ⟨c, d, hn, hm, hcd⟩
  · simp only [hn, hm]
    rcases token?_cases h .primitive (by decide) with ⟨hn, hm⟩ | ⟨t, u, hn, hm, htu⟩
    · simp only [hn, hm]
      exact hs.refuse h _
    · simp only [hn, hm]
      refine Agree.ok (TypeRef.mapSpans_eq_iff.2 ⟨?_, hspan⟩)
      refine withDimensions_shape_eq ?_ _
      simp only [TypeRef.mapSpans, TypeShape.mapSpans, htu.text_eq, htu.span_eq]
  · simp only [hn, hm]
    have := Node.size_lt_of_node? hn
    refine (classType hs hcd).bind fun a b hab => Agree.pure ?_
    refine TypeRef.mapSpans_eq_iff.2 ⟨?_, hspan⟩
    refine withDimensions_shape_eq ?_ _
    split
    · obtain ⟨hshape, hplace⟩ := TypeRef.mapSpans_eq_iff.1 hab
      refine TypeRef.mapSpans_eq_iff.2 ⟨?_, hplace⟩
      simp only [TypeShape.withGenerics_mapSpans, hshape]
    · exact hab
termination_by (n.size, 1)

theorem classType {n m : Node} (hs : C.Scopes s s') (h : C.tree n m) :
    C.Agree (TypeRef.mapSpans C.span) (s.classType n) (s'.classType m) := by
  have hspan := C.span_eq h
  rw [Scope.classType_eq, Scope.classType_eq]
  refine hs.bindNode h fun name name' hname => ?_
  have hshape := (TypeRef.mapSpans_eq_iff.1 (namedType_eq hname)).1
  rcases node?_cases h .typeArguments with ⟨hn, hm⟩ | ⟨c, d, hn, hm, hcd⟩
  · simp only [hn, hm]
    exact Agree.pure (TypeRef.mapSpans_eq_iff.2 ⟨hshape, hspan⟩)
  · simp only [hn, hm]
    have := Node.size_lt_of_node? hn
    refine (typeArguments hs hcd).bind fun ts us htu => Agree.pure ?_
    refine TypeRef.mapSpans_eq_iff.2 ⟨?_, hspan⟩
    simp only [TypeShape.withGenerics_mapSpans, Option.map_some, hshape, htu]
termination_by (n.size, 1)

theorem wildcardBound {n m : Node} (hs : C.Scopes s s') (h : C.tree n m) :
    C.Agree (Option.map (TypeRef.mapSpans C.span)) (s.wildcardBound n) (s'.wildcardBound m) := by
  rcases node?_cases h .type with ⟨hn, hm⟩ | ⟨c, d, hn, hm, hcd⟩
  · simp only [Scope.wildcardBound, hn, hm]
    exact Agree.ok rfl
  · simp only [Scope.wildcardBound, hn, hm]
    have := Node.size_lt_of_node? hn
    refine (typeRef hs hcd).bind fun a b hab => Agree.pure ?_
    rw [Option.map_some, Option.map_some, hab]
termination_by (n.size, 0)

theorem typeArguments {n m : Node} (hs : C.Scopes s s') (h : C.tree n m) :
    C.Agree (List.map (TypeArgument.mapSpans C.span)) (s.typeArguments n)
      (s'.typeArguments m) := by
  rw [Scope.typeArguments_eq, Scope.typeArguments_eq]
  refine Agree.mapM (nodes_mem h .argument) fun c d hcd => ?_
  have := Node.size_lt_of_mem_nodes hcd.1
  exact typeArgument hs hcd.2
termination_by (n.size, 1)

theorem typeArgument {n m : Node} (hs : C.Scopes s s') (h : C.tree n m) :
    C.Agree (TypeArgument.mapSpans C.span) (s.typeArgument n) (s'.typeArgument m) := by
  have hspan := C.span_eq h
  rw [Scope.typeArgument_eq, Scope.typeArgument_eq, C.has_eq h (by decide)]
  split
  · exact (wildcardBound hs h).bind fun _ _ hbound => hs.wildcardOf h hbound
  · rcases node?_cases h .type with ⟨hn, hm⟩ | ⟨c, d, hn, hm, hcd⟩
    · simp only [hn, hm]
      rw [C.kind_eq h]
      exact hs.refuse h _
    · simp only [hn, hm]
      have := Node.size_lt_of_node? hn
      refine (typeRef hs hcd).bind fun a b hab => Agree.pure ?_
      simp only [TypeArgument.mapSpans, TypeArgumentShape.mapSpans, hab, hspan]
termination_by (n.size, 1)

end

theorem typeArguments? (hs : C.Scopes s s') (h : C.tree n m) :
    C.Agree (Option.map (List.map (TypeArgument.mapSpans C.span))) (s.typeArguments? n)
      (s'.typeArguments? m) := by
  rcases node?_cases h .typeArguments with ⟨hn, hm⟩ | ⟨c, d, hn, hm, hcd⟩
  · simp only [Scope.typeArguments?, hn, hm]
    exact Agree.ok rfl
  · simp only [Scope.typeArguments?, hn, hm]
    refine (hs.typeArguments hcd).bind fun ts us htu => Agree.pure ?_
    rw [Option.map_some, Option.map_some, htu]

theorem typeOr (hs : C.Scopes s s') (h : C.tree n m) {t u : Token} (htu : C.SameToken t u) :
    C.Agree (TypeRef.mapSpans C.span) (s.typeOr n t) (s'.typeOr m u) := by
  rcases node?_cases h .type with ⟨hn, hm⟩ | ⟨c, d, hn, hm, hcd⟩
  · simp only [Scope.typeOr, hn, hm]
    exact Agree.ok (by simp [TypeRef.dynamic, htu.span_eq])
  · simp only [Scope.typeOr, hn, hm]
    exact hs.typeRef hcd

end Scopes

end Comparison

end GroovyLowering
