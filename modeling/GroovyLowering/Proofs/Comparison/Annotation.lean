import GroovyLowering.Proofs.Comparison.Type

/-!
# Comparing annotations and modifiers

The members of an annotation are looked at by name while they are lowered: a name that comes a
second time is refused.  Replacing spans keeps the names, so the question has the same answer in
both lowerings (`any_member_eq`).
-/

namespace GroovyLowering

namespace Comparison

variable {C : Comparison} {n m : Node} {s s' : Scope}

/-- What is kept of the members of an annotation. -/
def members (C : Comparison) : List (String × Expr) → List (String × Expr) :=
  List.map (Prod.map id (Expr.mapSpans C.span))

theorem any_member_eq {xs ys : List (String × Expr)} (h : C.members xs = C.members ys)
    (name : String) : (xs.any fun x => x.1 == name) = ys.any fun y => y.1 == name := by
  have hnames : xs.map Prod.fst = ys.map Prod.fst := by
    have := congrArg (List.map Prod.fst) h
    simpa [members, Function.comp_def] using this
  have := congrArg (List.any · fun x => x == name) hnames
  simpa [List.any_map, Function.comp_def] using this

theorem setMember_eq (name : String) {a b : Expr}
    (hab : a.mapSpans C.span = b.mapSpans C.span) {xs ys : List (String × Expr)}
    (h : C.members xs = C.members ys) :
    C.members (setMember name a xs) = C.members (setMember name b ys) := by
  induction xs generalizing ys with
  | nil =>
    cases ys with
    | nil => simp [setMember, members, hab]
    | cons y ys => simp [members] at h
  | cons x xs ih =>
    cases ys with
    | nil => simp [members] at h
    | cons y ys =>
      obtain ⟨hxy, hrest⟩ := List.cons.inj h
      have hname : x.1 = y.1 := (Prod.ext_iff.1 hxy).1
      rw [setMember, setMember, hname]
      split
      · exact congrArg₂ List.cons (Prod.ext rfl hab) hrest
      · exact congrArg₂ List.cons hxy (ih hrest)

namespace Scopes

mutual

theorem annotationUse {n m : Node} (hs : C.Scopes s s') (h : C.tree n m) :
    C.Agree (γ := Annotation) (.mapSpans C.span) (s.annotationUse n) (s'.annotationUse m) := by
  have hspan := C.span_eq h
  rw [Scope.annotationUse_eq, Scope.annotationUse_eq]
  refine hs.bindNode h fun name name' hname => ?_
  simp only [dottedName_eq hname]
  refine Agree.bind (k := C.members)
    (Agree.foldlM (nodes_mem h .pair) (fun xs ys c d hxys hcd => ?_) rfl) fun xs ys hxys => ?_
  · have := Node.size_lt_of_mem_nodes hcd.1
    exact annotationMember hs hcd.2 hxys
  · rcases node?_cases h .value with ⟨hn, hm⟩ | ⟨c, d, hn, hm, hcd⟩
    · simp only [hn, hm]
      exact Agree.pure (by simpa [members, hspan] using hxys)
    · simp only [hn, hm]
      have := Node.size_lt_of_node? hn
      refine (elementValue hs hcd).bind fun a b hab => Agree.pure ?_
      simpa [members, hspan] using setMember_eq "value" hab hxys
termination_by (n.size, 0)

theorem annotationMember {n m : Node} (hs : C.Scopes s s') (h : C.tree n m)
    {xs ys : List (String × Expr)} (hxys : C.members xs = C.members ys) :
    C.Agree C.members (s.annotationMember xs n) (s'.annotationMember ys m) := by
  rw [Scope.annotationMember, Scope.annotationMember]
  refine hs.bindToken h (by decide) fun t u htu => ?_
  rcases node?_cases h .value with ⟨hn, hm⟩ | ⟨c, d, hn, hm, hcd⟩
  · simp only [hn, hm, C.kind_eq h]
    exact hs.refuse h _
  · simp only [hn, hm]
    have := Node.size_lt_of_node? hn
    refine (elementValue hs hcd).bind fun a b hab => ?_
    rw [any_member_eq hxys, htu.text_eq]
    split
    · exact Agree.error (by simp only [error, htu.span_eq])
    · refine Agree.pure ?_
      rw [members, List.map_append, List.map_append]
      exact congrArg₂ _ hxys (by simp [hab])
termination_by (n.size, 0)

theorem elementValue {n m : Node} (hs : C.Scopes s s') (h : C.tree n m) :
    C.Agree (Expr.mapSpans C.span) (s.elementValue n) (s'.elementValue m) := by
  have hspan := C.span_eq h
  rw [Scope.elementValue_eq, Scope.elementValue_eq]
  rcases node?_cases h .expression with ⟨hn, hm⟩ | ⟨c, d, hn, hm, hcd⟩
  · simp only [hn, hm]
    rcases node?_cases h .annotationUse with ⟨hn, hm⟩ | ⟨c, d, hn, hm, hcd⟩
    · simp only [hn, hm]
      rcases node?_cases h .array with ⟨hn, hm⟩ | ⟨c, d, hn, hm, hcd⟩
      · simp only [hn, hm]
        exact hs.refuse h _
      · simp only [hn, hm]
        have hsize := Node.size_lt_of_node? hn
        refine Agree.bind (k := List.map (Expr.mapSpans C.span))
          (Agree.mapM (nodes_mem hcd .element) fun x y hxy => ?_) fun xs ys hxys => Agree.pure ?_
        · have := Nat.lt_trans (Node.size_lt_of_mem_nodes hxy.1) hsize
          exact elementValue hs hxy.2
        · simp [hxys, C.span_eq hcd]
    · simp only [hn, hm]
      have := Node.size_lt_of_node? hn
      refine (annotationUse hs hcd).bind fun a b hab => Agree.pure ?_
      simp [hab, hspan]
  · simp only [hn, hm]
    exact hs.expr hcd
termination_by (n.size, 0)

end

theorem annotations (hs : C.Scopes s s') (h : C.tree n m) :
    C.Agree (γ := List Annotation) (List.map (.mapSpans C.span)) (s.annotations n)
      (s'.annotations m) :=
  Agree.mapM (C.nodes h _) fun _ _ => hs.annotationUse

/-! ## Modifiers -/

theorem modifier (hs : C.Scopes s s') (h : C.tree n m) :
    C.Agree (Modifier.mapSpans C.span) (s.modifier n) (s'.modifier m) := by
  rcases node?_cases h .annotationUse with ⟨hn, hm⟩ | ⟨c, d, hn, hm, hcd⟩
  · simp only [Scope.modifier, hn, hm]
    refine hs.bindToken h (by decide) fun t u htu => ?_
    simp only [htu.text_eq]
    split
    · exact Agree.pure (by simp [Modifier.ofKind, htu.span_eq])
    · exact hs.refuse h _
  · simp only [Scope.modifier, hn, hm]
    refine (hs.annotationUse hcd).bind fun a b hab => Agree.pure ?_
    cases a
    cases b
    simp_all [Modifier.ofAnnotationUse]

theorem modifiers (hs : C.Scopes s s') (h : C.tree n m) :
    C.Agree (ModifierSet.mapSpans C.span) (s.modifiers n) (s'.modifiers m) := by
  rcases node?_cases h .modifiers with ⟨hn, hm⟩ | ⟨c, d, hn, hm, hcd⟩
  · simp only [Scope.modifiers, hn, hm]
    exact Agree.ok rfl
  · simp only [Scope.modifiers, hn, hm]
    refine Agree.bind (k := List.map (Modifier.mapSpans C.span))
      (Agree.mapM (C.nodes hcd _) fun _ _ => hs.modifier) fun xs ys hxys => Agree.pure ?_
    rw [ModifierSet.mapSpans, ModifierSet.mapSpans, hxys]

end Scopes

/-! ## What modifiers do to a declaration -/

section Modifiers

variable {a b : ModifierSet}

theorem kinds_eq (h : a.mapSpans C.span = b.mapSpans C.span) :
    a.items.map Modifier.kind = b.items.map Modifier.kind := by
  have := congrArg (fun m => m.items.map Modifier.kind) h
  simpa [Function.comp_def] using this

theorem any_kind_eq (h : a.mapSpans C.span = b.mapSpans C.span) (p : ModifierKind → Bool) :
    (a.items.any fun i => p i.kind) = b.items.any fun i => p i.kind := by
  have := congrArg (List.any · p) (kinds_eq h)
  simpa [List.any_map, Function.comp_def] using this

theorem flags_eq (h : a.mapSpans C.span = b.mapSpans C.span) : a.flags = b.flags := by
  have := congrArg (List.foldl (fun acc k => acc ||| ModifierKind.accessFlag k) 0) (kinds_eq h)
  simpa [ModifierSet.flags, List.foldl_map] using this

theorem contains_eq (h : a.mapSpans C.span = b.mapSpans C.span) (kind : ModifierKind) :
    a.contains kind = b.contains kind :=
  any_kind_eq h (· == kind)

theorem hasVisibility_eq (h : a.mapSpans C.span = b.mapSpans C.span) :
    a.hasVisibility = b.hasVisibility :=
  any_kind_eq h ModifierKind.isVisibility

theorem visibilityFacts_eq (h : a.mapSpans C.span = b.mapSpans C.span) (r m : Bool) :
    a.visibilityFacts r m = b.visibilityFacts r m := by
  have hother : a.hasOther = b.hasOther :=
    any_kind_eq h fun kind => kind.isKeyword && !kind.isVisibility
  simp only [ModifierSet.visibilityFacts, contains_eq h, hasVisibility_eq h, hother]

theorem attached_eq (h : a.mapSpans C.span = b.mapSpans C.span) :
    (a.annotations.map (.mapSpans C.span) : List Annotation) =
      b.annotations.map (.mapSpans C.span) := by
  have := congrArg (fun m => m.items.filterMap Modifier.attached) h
  simpa [ModifierSet.annotations, List.map_filterMap, List.filterMap_map, Function.comp_def]
    using this

end Modifiers

end Comparison

end GroovyLowering
