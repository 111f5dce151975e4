import GroovyLowering.Proofs.Comparison.Annotation

/-!
# Comparing local variable declarations

A declaration gives one statement per declared name, and how many there are is decided by the tree
alone.  The names of a tuple are counted as well: the slot of a name is the same in both lowerings
since the lists of names correspond one by one (`forall₂_zipIdx`).
-/

namespace GroovyLowering

namespace Comparison

variable {C : Comparison} {n m : Node} {s s' : Scope}

theorem forall₂_zipIdx {α : Type} {R : α → α → Prop} {xs ys : List α} (h : List.Forall₂ R xs ys)
    (start : Nat) :
    List.Forall₂ (fun x y => R x.1 y.1 ∧ x.2 = y.2) (xs.zipIdx start) (ys.zipIdx start) := by
  induction h generalizing start with
  | nil => exact .nil
  | cons hxy _ ih => exact .cons ⟨hxy, rfl⟩ (ih (start + 1))

theorem declare_eq {a b : ModifierSet} {d e : Declaration} {p q : Span}
    (hab : a.mapSpans C.span = b.mapSpans C.span) (hde : d.mapSpans C.span = e.mapSpans C.span)
    (hpq : C.span p = C.span q) :
    (Scope.declare a d p).mapSpans C.span = (Scope.declare b e q).mapSpans C.span := by
  cases d
  cases e
  simp_all [Scope.declare, ModifierSet.applyToDeclaration, ModifierSet.applyToVariable,
    flags_eq hab, attached_eq hab]

namespace Scopes

theorem initializer {n m : Node} (hs : C.Scopes s s') (h : C.tree n m) :
    C.Agree (Expr.mapSpans C.span) (s.initializer n) (s'.initializer m) := by
  have hspan := C.span_eq h
  rw [Scope.initializer_eq, Scope.initializer_eq]
  rcases node?_cases h .array with ⟨hn, hm⟩ | ⟨c, d, hn, hm, hcd⟩
  · simp only [hn, hm]
    refine hs.bindNode h fun c d hcd => (hs.expr hcd).bind fun a b hab => Agree.pure ?_
    rw [Expr.withSpan_mapSpans, Expr.withSpan_mapSpans, hab, hspan]
  · simp only [hn, hm]
    have hsize := Node.size_lt_of_node? hn
    refine Agree.bind (k := List.map (Expr.mapSpans C.span))
      (Agree.mapM (nodes_mem hcd .element) fun x y hxy => ?_) fun xs ys hxys => Agree.pure ?_
    · have := Nat.lt_trans (Node.size_lt_of_mem_nodes hxy.1) hsize
      exact initializer hs hxy.2
    · simp [hxys, hspan]
termination_by n.size

theorem initializerOr (hs : C.Scopes s s') (h : C.tree n m) {p q : Span}
    (hpq : C.span p = C.span q) :
    C.Agree (Expr.mapSpans C.span) (s.initializerOr n p) (s'.initializerOr m q) := by
  rcases node?_cases h .initializer with ⟨hn, hm⟩ | ⟨c, d, hn, hm, hcd⟩
  · simp only [Scope.initializerOr, hn, hm]
    exact Agree.ok (by simp [Expr.nothing, hpq])
  · simp only [Scope.initializerOr, hn, hm]
    exact hs.initializer hcd

variable {a b : ModifierSet}

theorem declarator (hs : C.Scopes s s') (h : C.tree n m)
    (hab : a.mapSpans C.span = b.mapSpans C.span) {p q : Span} (hpq : C.span p = C.span q)
    {d e : Node} (hde : C.tree d e) :
    C.Agree (Stmt.mapSpans C.span) (s.declarator n a p d) (s'.declarator m b q e) := by
  refine hs.bindToken hde (by decide) fun t u htu => ?_
  refine (hs.typeOr h htu).bind fun type type' htype => ?_
  refine (hs.initializerOr hde (C.span_eq hde)).bind fun x y hxy => Agree.pure ?_
  exact declare_eq hab (by simp [htu.text_eq, htu.span_eq, htype, hxy]) hpq

theorem declarators (hs : C.Scopes s s') (h : C.tree n m)
    (hab : a.mapSpans C.span = b.mapSpans C.span) {ds es : List Node}
    (hdes : List.Forall₂ C.tree ds es) :
    C.Agree (List.map (Stmt.mapSpans C.span)) (s.declarators n a ds) (s'.declarators m b es) := by
  have hspan := C.span_eq h
  cases hdes with
  | nil => exact hs.refuse h _
  | cons hde hrest =>
    cases hrest with
    | nil =>
      refine (hs.declarator h hab hspan hde).bind fun x y hxy => Agree.pure ?_
      rw [List.map_singleton, List.map_singleton, hxy]
    | cons hde' hrest =>
      refine (hs.declarator h hab (C.upTo_eq hspan (C.span_eq hde)) hde).bind fun x y hxy => ?_
      refine Agree.bind (k := List.map (Stmt.mapSpans C.span))
        (Agree.mapM (.cons hde' hrest) fun d e hde => ?_) fun xs ys hxys => Agree.pure ?_
      · exact hs.declarator h hab (C.span_eq hde) hde
      · rw [List.map_cons, List.map_cons, hxy, hxys]

theorem tupleName (hs : C.Scopes s s') (h : C.tree n m)
    (hab : a.mapSpans C.span = b.mapSpans C.span) {x y : Expr}
    (hxy : x.mapSpans C.span = y.mapSpans C.span) (slot : TupleSlot) {d e : Node}
    (hde : C.tree d e) :
    C.Agree (Stmt.mapSpans C.span) (s.tupleName n a x slot d) (s'.tupleName m b y slot e) := by
  refine hs.bindToken hde (by decide) fun t u htu => ?_
  refine (hs.typeOr hde htu).bind fun type type' htype => Agree.pure ?_
  exact declare_eq hab (by simp [htu.text_eq, C.span_eq hde, htype, hxy]) (C.span_eq h)

theorem tuple (hs : C.Scopes s s') (h : C.tree n m)
    (hab : a.mapSpans C.span = b.mapSpans C.span) {ds es : List Node}
    (hdes : List.Forall₂ C.tree ds es) :
    C.Agree (List.map (Stmt.mapSpans C.span)) (s.tuple n a ds) (s'.tuple m b es) := by
  rw [Scope.tuple, Scope.tuple, contains_eq hab, hdes.length_eq]
  split
  · refine (hs.initializerOr h (C.span_eq h)).bind fun x y hxy => ?_
    refine Agree.mapM (forall₂_zipIdx hdes 0) fun x y hxy' => ?_
    obtain ⟨d, i⟩ := x
    obtain ⟨e, j⟩ := y
    obtain ⟨hde, hij⟩ := hxy'
    obtain rfl : i = j := hij
    exact hs.tupleName h hab hxy _ hde
  · exact hs.refuse h _

theorem localVariable (hs : C.Scopes s s') (h : C.tree n m) :
    C.Agree (List.map (Stmt.mapSpans C.span)) (s.localVariable n) (s'.localVariable m) := by
  refine (hs.modifiers h).bind fun a b hab => ?_
  rcases node?_cases h .tuple with ⟨hn, hm⟩ | ⟨c, d, hn, hm, hcd⟩
  · simp only [hn, hm]
    exact hs.declarators h hab (C.nodes h _)
  · simp only [hn, hm]
    exact hs.tuple h hab (C.nodes hcd _)

end Scopes

end Comparison

end GroovyLowering
