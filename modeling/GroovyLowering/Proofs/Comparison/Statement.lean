import GroovyLowering.Lower.Statement
import GroovyLowering.Proofs.Comparison.Expression

/-!
# Comparing statements

Loops, try statements and switches take lists apart that a lowering has built: the declarations of
a loop header, the types of a catch clause, the labels of a switch.  Each of these steps keeps the
views of the lists equal.

`Scopes.statement` puts the statements together.
-/

namespace GroovyLowering

namespace Comparison

variable {C : Comparison} {n m : Node} {s s' : Scope}

/-- What is kept of an item of a switch. -/
def switchItem (C : Comparison) : SwitchItem → SwitchItem
  | .case c => .case (c.mapSpans C.span)
  | .fallback body => .fallback (body.mapSpans C.span)

/-- What is kept of the header of a loop. -/
def header (C : Comparison) : Option Parameter × Expr → Option Parameter × Expr :=
  Prod.map (Option.map (Parameter.mapSpans C.span)) (Expr.mapSpans C.span)

theorem nothing_eq {p q : Span} (hpq : C.span p = C.span q) :
    (Stmt.nothing p).mapSpans C.span = (Stmt.nothing q).mapSpans C.span := by
  simp [Stmt.nothing, hpq]

/-- A view of what a function picks from a list is picked from the views by a function `g'`. -/
theorem filterMap_eq {α β γ : Type} {k : α → α} {l : β → γ} {g : α → Option β}
    (g' : α → Option γ) (hg : ∀ x, (g x).map l = g' (k x)) {xs ys : List α}
    (hxys : xs.map k = ys.map k) :
    (xs.filterMap g).map l = (ys.filterMap g).map l := by
  have := congrArg (List.filterMap g') hxys
  simpa [List.map_filterMap, List.filterMap_map, Function.comp_def, hg] using this

theorem expressions_eq {xs ys : List Stmt}
    (h : xs.map (Stmt.mapSpans C.span) = ys.map (Stmt.mapSpans C.span)) :
    (xs.filterMap Stmt.expression?).map (Expr.mapSpans C.span) =
      (ys.filterMap Stmt.expression?).map (Expr.mapSpans C.span) := by
  refine filterMap_eq Stmt.expression? (fun x => ?_) h
  obtain ⟨shape, span, labels⟩ := x
  cases shape <;> rfl

section Items

variable {xs ys : List SwitchItem}

theorem cases_eq (h : xs.map C.switchItem = ys.map C.switchItem) :
    (xs.filterMap SwitchItem.case?).map (SwitchCase.mapSpans C.span) =
      (ys.filterMap SwitchItem.case?).map (SwitchCase.mapSpans C.span) :=
  filterMap_eq SwitchItem.case? (fun x => by cases x <;> rfl) h

theorem fallbacks_eq (h : xs.map C.switchItem = ys.map C.switchItem) :
    (xs.filterMap SwitchItem.fallback?).map (Stmt.mapSpans C.span) =
      (ys.filterMap SwitchItem.fallback?).map (Stmt.mapSpans C.span) :=
  filterMap_eq SwitchItem.fallback? (fun x => by cases x <;> rfl) h

theorem endsInCase_eq (h : xs.map C.switchItem = ys.map C.switchItem) :
    xs.getLast?.any SwitchItem.isCase = ys.getLast?.any SwitchItem.isCase := by
  have hitem : ∀ x : SwitchItem, (C.switchItem x).isCase = x.isCase := by
    intro x
    cases x <;> rfl
  have := congrArg (fun l => (List.getLast? l).any SwitchItem.isCase) h
  simpa [List.getLast?_map, Option.any_map, Function.comp_def, hitem] using this

theorem switchDefault_agree {p q : Span} (hpq : C.span p = C.span q)
    (h : xs.map C.switchItem = ys.map C.switchItem) :
    C.Agree (Stmt.mapSpans C.span) (Scope.switchDefault p xs) (Scope.switchDefault q ys) := by
  have hbodies := fallbacks_eq h
  rw [Scope.switchDefault, Scope.switchDefault, endsInCase_eq h]
  generalize xs.filterMap SwitchItem.fallback? = as at hbodies
  generalize ys.filterMap SwitchItem.fallback? = bs at hbodies
  rcases map_eq_map_cases hbodies with ⟨rfl, rfl⟩ | ⟨a, as', b, bs', rfl, rfl, hab, hothers⟩
  · exact Agree.ok (nothing_eq hpq)
  · have hplace := (Stmt.mapSpans_eq_iff.1 hab).2.1
    rcases map_eq_map_cases hothers with ⟨rfl, rfl⟩ | ⟨_, _, _, _, rfl, rfl, _, _⟩
    · dsimp only
      split
      · exact Agree.error (by simp only [error, hplace])
      · exact Agree.ok hab
    · exact Agree.error (by simp only [error, hplace])

end Items

namespace Scopes

/-! ## Loops -/

theorem forInit (hs : C.Scopes s s') (h : C.tree n m) :
    C.Agree (Expr.mapSpans C.span) (s.forInit n) (s'.forInit m) := by
  have hspan := C.span_eq h
  rcases node?_cases h .statement with ⟨hn, hm⟩ | ⟨c, d, hn, hm, hcd⟩
  · simp only [Scope.forInit, hn, hm]
    refine hs.bindNode h fun c d hcd => (hs.expr hcd).bind fun a b hab => Agree.pure ?_
    exact withSpan_eq hab hspan
  · simp only [Scope.forInit, hn, hm]
    refine (hs.localVariable hcd).bind fun xs ys hxys => ?_
    have hexprs := expressions_eq hxys
    generalize xs.filterMap Stmt.expression? = as at hexprs
    generalize ys.filterMap Stmt.expression? = bs at hexprs
    rcases map_eq_map_cases hexprs with ⟨rfl, rfl⟩ | ⟨a, as', b, bs', rfl, rfl, hab, hothers⟩
    · exact Agree.pure (by simp [hspan])
    · rcases map_eq_map_cases hothers with ⟨rfl, rfl⟩ | ⟨_, _, _, _, rfl, rfl, _, _⟩
      · exact Agree.pure (withSpan_eq hab hspan)
      · refine Agree.pure ?_
        simp only [Expr.mapSpans, ExprShape.mapSpans, mapSpansInExprs_eq, hexprs, hspan]

theorem forUpdate (hs : C.Scopes s s') (h : C.tree n m) :
    C.Agree (Expr.mapSpans C.span) (s.forUpdate n) (s'.forUpdate m) :=
  hs.bindNode h fun _ _ hcd => (hs.expr hcd).bind fun _ _ hab =>
    Agree.pure (withSpan_eq hab (C.span_eq h))

theorem forClause (h : C.tree n m) (role : Role) {f : Scope → Node → Lowered Expr}
    (hf : ∀ {c d}, C.tree c d → C.Agree (Expr.mapSpans C.span) (f s c) (f s' d)) :
    C.Agree (Expr.mapSpans C.span) (s.forClause n role f) (s'.forClause m role f) := by
  rcases node?_cases h role with ⟨hn, hm⟩ | ⟨c, d, hn, hm, hcd⟩
  · simp only [Scope.forClause, hn, hm]
    exact Agree.ok (by simp [Expr.nothing, C.span_eq h])
  · simp only [Scope.forClause, hn, hm]
    exact hf hcd

theorem forControl (hs : C.Scopes s s') (h : C.tree n m) :
    C.Agree C.header (s.forControl n) (s'.forControl m) := by
  rw [Scope.forControl, Scope.forControl, C.kind_eq h]
  split
  · refine hs.bindToken h (by decide) fun t u htu => ?_
    refine (hs.typeOr h htu).bind fun type type' htype => ?_
    refine hs.bindNode h fun c d hcd => (hs.expr hcd).bind fun a b hab => Agree.pure ?_
    simp [header, htu.text_eq, htu.span_eq, htype, hab]
  · refine (forClause h _ hs.forInit).bind fun a b hab => ?_
    refine (forClause h _ hs.expr).bind fun x y hxy => ?_
    refine (forClause h _ hs.forUpdate).bind fun z w hzw => Agree.pure ?_
    simp [header, hab, hxy, hzw, C.span_eq h]
  · exact hs.refuse h _

theorem forLoop (hs : C.Scopes s s') (h : C.tree n m) :
    C.Agree (Stmt.mapSpans C.span) (s.forLoop n) (s'.forLoop m) := by
  refine hs.bindNode h fun control control' hcontrol => hs.bindNode h fun c d hcd => ?_
  refine (hs.stmt hcd).bind fun x y hxy => (hs.forControl hcontrol).bind fun a b hab => ?_
  obtain ⟨binder, collection⟩ := a
  obtain ⟨binder', collection'⟩ := b
  obtain ⟨hbinder, hcollection⟩ := Prod.ext_iff.1 hab
  refine Agree.pure ?_
  simp only [header, Prod.map_fst, Prod.map_snd] at hbinder hcollection
  simp [hbinder, hcollection, hxy, C.span_eq h]

/-! ## Try statements -/

theorem catchTypes (h : C.tree n m) {t u : Token} (htu : C.SameToken t u) :
    (Scope.catchTypes n t).map (TypeRef.mapSpans C.span) =
      (Scope.catchTypes m u).map (TypeRef.mapSpans C.span) := by
  have hdynamic : (TypeRef.dynamic t.span).mapSpans C.span =
      (TypeRef.dynamic u.span).mapSpans C.span := by
    simp [TypeRef.dynamic, htu.span_eq]
  rcases node?_cases h .catchType with ⟨hn, hm⟩ | ⟨c, d, hn, hm, hcd⟩
  · simp only [Scope.catchTypes, hn, hm, List.map_singleton, hdynamic]
  · simp only [Scope.catchTypes, hn, hm]
    have htypes : ((c.nodes .element).map Node.namedType).map (TypeRef.mapSpans C.span) =
        ((d.nodes .element).map Node.namedType).map (TypeRef.mapSpans C.span) := by
      rw [List.map_map, List.map_map]
      exact map_eq_of_forall₂ (C.nodes hcd .element) fun x y hxy => namedType_eq hxy
    generalize (c.nodes .element).map Node.namedType = xs at htypes
    generalize (d.nodes .element).map Node.namedType = ys at htypes
    rcases map_eq_map_cases htypes with ⟨rfl, rfl⟩ | ⟨x, xs', y, ys', rfl, rfl, -, -⟩
    · exact congrArg (fun type => [type]) hdynamic
    · exact htypes

theorem catchClause (hs : C.Scopes s s') (h : C.tree n m) :
    C.Agree (List.map (CatchClause.mapSpans C.span)) (s.catchClause n) (s'.catchClause m) := by
  refine hs.bindToken h (by decide) fun t u htu => hs.bindNode h fun c d hcd => ?_
  refine (hs.block hcd).bind fun a b hab => Agree.pure ?_
  have htypes := catchTypes h htu
  have hplace := (Stmt.mapSpans_eq_iff.1 hab).2.1
  have := congrArg (List.map fun type => (⟨⟨u.text, type, 0, [], none, C.span u.span⟩,
    b.mapSpans C.span, C.span b.span⟩ : CatchClause)) htypes
  simpa [Function.comp_def, htu.text_eq, htu.span_eq, hab, hplace] using this

theorem atEnd (hs : C.Scopes s s') (h : C.tree n m) {p q : Span} (hpq : C.span p = C.span q) :
    C.Agree (Stmt.mapSpans C.span) (s.atEnd n p) (s'.atEnd m q) := by
  rcases node?_cases h .finallyClause with ⟨hn, hm⟩ | ⟨c, d, hn, hm, hcd⟩
  · simp only [Scope.atEnd, hn, hm]
    exact Agree.ok (nothing_eq hpq)
  · simp only [Scope.atEnd, hn, hm]
    refine hs.bindNode hcd fun x y hxy => (hs.block hxy).bind fun a b hab => Agree.pure ?_
    exact block_eq (by rw [List.map_singleton, List.map_singleton, hab]) (C.span_eq hcd)

theorem tryCatch (hs : C.Scopes s s') (h : C.tree n m) :
    C.Agree (Stmt.mapSpans C.span) (s.tryCatch n) (s'.tryCatch m) := by
  refine hs.bindNode h fun c d hcd => (hs.block hcd).bind fun a b hab => ?_
  refine Agree.bind (k := List.map (List.map (CatchClause.mapSpans C.span)))
    (Agree.mapM (C.nodes h _) fun _ _ => hs.catchClause) fun xs ys hxys => ?_
  refine (hs.atEnd h (C.span_eq h)).bind fun x y hxy => Agree.pure ?_
  have hcatches := congrArg List.flatten hxys
  rw [← List.map_flatten, ← List.map_flatten] at hcatches
  simp only [Stmt.mapSpans, StmtShape.mapSpans, mapSpansInCatches_eq, hab, hcatches, hxy,
    C.span_eq h]

/-! ## Switches -/

section Group

variable {a b : Stmt} {p q : Span}

theorem switchLabel (hs : C.Scopes s s') (hab : a.mapSpans C.span = b.mapSpans C.span)
    (hpq : C.span p = C.span q) (isLast : Bool) (h : C.tree n m) :
    C.Agree C.switchItem (s.switchLabel a p isLast n) (s'.switchLabel b q isLast m) := by
  refine hs.bindToken h (by decide) fun t u htu => ?_
  rw [htu.text_eq]
  split
  · refine hs.bindNode h fun c d hcd => (hs.expr hcd).bind fun x y hxy => Agree.pure ?_
    cases isLast with
    | true => simp [switchItem, hxy, hab, hpq]
    | false => simp [switchItem, hxy, hpq, Stmt.nothing]
  · split
    · exact Agree.pure (congrArg SwitchItem.fallback hab)
    · exact hs.refuse h _

theorem switchLabels (hs : C.Scopes s s') (hab : a.mapSpans C.span = b.mapSpans C.span)
    (hpq : C.span p = C.span q) {xs ys : List Node} (hxys : List.Forall₂ C.tree xs ys) :
    C.Agree (List.map C.switchItem) (s.switchLabels a p xs) (s'.switchLabels b q ys) := by
  induction hxys with
  | nil => exact Agree.ok rfl
  | @cons x y xs ys hxy hrest ih =>
    have hlast : xs.isEmpty = ys.isEmpty := by cases hrest <;> rfl
    rw [Scope.switchLabels, Scope.switchLabels, hlast]
    refine (hs.switchLabel hab hpq _ hxy).bind fun i j hij => ih.bind fun is js hijs => ?_
    exact Agree.pure (by rw [List.map_cons, List.map_cons, hij, hijs])

end Group

theorem switchGroup (hs : C.Scopes s s') (h : C.tree n m) :
    C.Agree (List.map C.switchItem) (s.switchGroup n) (s'.switchGroup m) := by
  have hlabels := C.nodes h .label
  rw [Scope.switchGroup, Scope.switchGroup]
  generalize n.nodes .label = xs at hlabels
  generalize m.nodes .label = ys at hlabels
  cases hlabels with
  | nil => exact hs.refuse h _
  | cons hxy hothers =>
    refine hs.bindToken hxy (by decide) fun t u htu => ?_
    refine (hs.body h (C.span_eq h)).bind fun a b hab => ?_
    exact hs.switchLabels hab htu.span_eq (.cons hxy hothers)

theorem switch (hs : C.Scopes s s') (h : C.tree n m) :
    C.Agree (Stmt.mapSpans C.span) (s.switch n) (s'.switch m) := by
  refine hs.bindNode h fun c d hcd => (hs.expr hcd).bind fun a b hab => ?_
  refine Agree.bind (k := List.map (List.map C.switchItem))
    (Agree.mapM (C.nodes h _) fun _ _ => hs.switchGroup) fun xs ys hxys => ?_
  have hitems := congrArg List.flatten hxys
  rw [← List.map_flatten, ← List.map_flatten] at hitems
  refine (switchDefault_agree (C.span_eq h) hitems).bind fun x y hxy => Agree.pure ?_
  simp only [Stmt.mapSpans, StmtShape.mapSpans, mapSpansInCases_eq, hab, cases_eq hitems, hxy,
    C.span_eq h]

/-! ## Other statements -/

theorem condition (hs : C.Scopes s s') (h : C.tree n m) :
    C.Agree (Expr.mapSpans C.span) (s.condition n) (s'.condition m) := by
  refine hs.bindNode h fun c d hcd => (hs.expr hcd).bind fun a b hab => Agree.pure ?_
  simp [Expr.truth, hab, C.span_eq hcd]

theorem assertion (hs : C.Scopes s s') (h : C.tree n m) :
    C.Agree (StmtShape.mapSpans C.span) (s.assertion n) (s'.assertion m) :=
  (hs.condition h).bind fun _ _ hab => (hs.expr? h).bind fun _ _ hxy =>
    Agree.pure (by simp [hab, hxy])

theorem elseBranch (hs : C.Scopes s s') (h : C.tree n m) :
    C.Agree (Stmt.mapSpans C.span) (s.elseBranch n) (s'.elseBranch m) := by
  rcases node?_cases h .elseBranch with ⟨hn, hm⟩ | ⟨c, d, hn, hm, hcd⟩
  · simp only [Scope.elseBranch, hn, hm]
    exact Agree.ok (nothing_eq (hs.spanOf h))
  · simp only [Scope.elseBranch, hn, hm]
    exact hs.stmt hcd

theorem choice (hs : C.Scopes s s') (h : C.tree n m) :
    C.Agree (StmtShape.mapSpans C.span) (s.choice n) (s'.choice m) := by
  refine (hs.condition h).bind fun a b hab => hs.bindNode h fun c d hcd => ?_
  refine (hs.stmt hcd).bind fun x y hxy => (hs.elseBranch h).bind fun z w hzw => Agree.pure ?_
  simp [hab, hxy, hzw]

theorem whileLoop (hs : C.Scopes s s') (h : C.tree n m) :
    C.Agree (StmtShape.mapSpans C.span) (s.whileLoop n) (s'.whileLoop m) := by
  refine (hs.condition h).bind fun a b hab => hs.bindNode h fun c d hcd => ?_
  exact (hs.stmt hcd).bind fun x y hxy => Agree.pure (by simp [hab, hxy])

theorem synchronized (hs : C.Scopes s s') (h : C.tree n m) :
    C.Agree (StmtShape.mapSpans C.span) (s.synchronized n) (s'.synchronized m) := by
  refine hs.bindNode h fun c d hcd => (hs.expr hcd).bind fun a b hab => ?_
  refine hs.bindNode h fun c d hcd => (hs.stmt hcd).bind fun x y hxy => Agree.pure ?_
  simp [hab, hxy]

theorem returnValue (hs : C.Scopes s s') (h : C.tree n m) :
    C.Agree (StmtShape.mapSpans C.span) (s.returnValue n) (s'.returnValue m) := by
  refine (hs.expr? h).bind fun x y hxy => Agree.pure ?_
  cases x <;> cases y <;> simp_all [Expr.null, Expr.constant, hs.spanOf h]

theorem placed (hs : C.Scopes s s') (h : C.tree n m) {x y : Lowered StmtShape}
    (hxy : C.Agree (StmtShape.mapSpans C.span) x y) :
    C.Agree (Stmt.mapSpans C.span) (s.placed n x) (s'.placed m y) :=
  hxy.bind fun _ _ hab => Agree.pure (by simp [hab, hs.spanOf h])

theorem single (hs : C.Scopes s s') (h : C.tree n m) :
    C.Agree (Stmt.mapSpans C.span) (s.single n) (s'.single m) := by
  refine (hs.blockStatement h).bind fun xs ys hxys => ?_
  rcases map_eq_map_cases hxys with ⟨rfl, rfl⟩ | ⟨x, xs', y, ys', rfl, rfl, hxy, hothers⟩
  · exact Agree.pure (block_eq rfl (hs.spanOf h))
  · rcases map_eq_map_cases hothers with ⟨rfl, rfl⟩ | ⟨_, _, _, _, rfl, rfl, _, _⟩
    · exact Agree.pure hxy
    · exact Agree.pure (block_eq hxys (hs.spanOf h))

theorem statement (hs : C.Scopes s s') (h : C.tree n m) :
    C.Agree (Stmt.mapSpans C.span) (s.statement n) (s'.statement m) := by
  have hlabel : (n.token? .label).map Token.text = (m.token? .label).map Token.text :=
    text?_eq h (by decide)
  rw [Scope.statement, Scope.statement, C.kind_eq h, hlabel]
  split
  · exact hs.block h
  · exact hs.placed h (hs.assertion h)
  · exact hs.placed h (hs.choice h)
  · exact hs.forLoop h
  · exact hs.placed h (hs.whileLoop h)
  · exact hs.tryCatch h
  · exact hs.switch h
  · exact hs.placed h (hs.synchronized h)
  · exact hs.placed h (hs.returnValue h)
  · refine hs.placed h (hs.bindNode h fun c d hcd => (hs.expr hcd).bind fun a b hab => ?_)
    exact Agree.pure (by simp [hab])
  · exact hs.placed h (Agree.ok rfl)
  · exact hs.placed h (Agree.ok rfl)
  · refine hs.placed h (hs.bindNode h fun c d hcd => (hs.expr hcd).bind fun a b hab => ?_)
    exact Agree.pure (by simp [hab])
  · exact hs.single h
  · exact hs.single h
  · exact hs.single h
  · exact hs.single h
  · exact hs.refuse h _

end Scopes

end Comparison

end GroovyLowering
