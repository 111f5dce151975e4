import GroovyLowering.Lower.Unit
import GroovyLowering.Proofs.Comparison.Statement

/-!
# Comparing files

The lowering of a construct is compared for scopes whose next levels agree.  Levels themselves are
the scopes of a recursion, so `Scopes.level` closes the circle by induction on the levels that are
left: at level zero both lowerings fail, and one level further out both use the levels inside.

Two lowerings need not have the same limit.  Where the comparison excuses the error at the limit,
the second one may have more levels left (`Levels`).  The options of a file may differ in the same
manner (`Options`).

The results are `Agree.lowerUnit` for trees and `Agree.lower` for what a parser hands over.
-/

namespace GroovyLowering

namespace Comparison

variable {C : Comparison} {n m : Node} {s s' : Scope}

/-! ## Levels -/

/-- Levels that agree: the same ones, or more of them in the second lowering if the first one is
excused for having too few. -/
def Levels (C : Comparison) (limit left limit' left' : Nat) : Prop :=
  (limit = limit' ∧ left = left') ∨ ((∀ p, C.excuses (.nestingTooDeep limit p)) ∧ left ≤ left')

theorem Scopes.level {limit limit' left left' : Nat} (hlevels : C.Levels limit left limit' left')
    {p q : Span} (hpq : C.span p = C.span q) :
    C.Scopes (.level limit left p) (.level limit' left' q) := by
  induction left generalizing left' p q with
  | zero =>
    rcases hlevels with ⟨rfl, rfl⟩ | ⟨hdeep, _⟩
    · -- Both lowerings stop here, at the same limit.
      have hstop : ∀ {n m}, C.tree n m →
          C.error (.nestingTooDeep limit (n.spanOr p)) =
            C.error (.nestingTooDeep limit (m.spanOr q)) := by
        intro n m h
        simp only [error, C.spanOr_eq h hpq]
      exact ⟨hpq, fun h => Agree.error (hstop h), fun h => Agree.error (hstop h)⟩
    · refine ⟨?_, fun _ => Agree.excused (hdeep _) _, fun _ => Agree.excused (hdeep _) _⟩
      cases left' <;> exact hpq
  | succ left ih =>
    have hsucc : ∃ k, left' = k + 1 ∧ C.Levels limit left limit' k := by
      rcases hlevels with ⟨rfl, rfl⟩ | ⟨hdeep, hle⟩
      · exact ⟨left, rfl, Or.inl ⟨rfl, rfl⟩⟩
      · obtain ⟨k, rfl⟩ : ∃ k, left' = k + 1 := ⟨left' - 1, by omega⟩
        exact ⟨k, rfl, Or.inr ⟨hdeep, by omega⟩⟩
    obtain ⟨k, rfl, hk⟩ := hsucc
    refine ⟨hpq, fun {n m} h => ?_, fun {n m} h => ?_⟩
    · exact (ih hk (C.spanOr_eq h hpq)).expression h
    · exact (ih hk (C.spanOr_eq h hpq)).statement h

/-! ## Packages and imports -/

namespace Scopes

theorem package (hs : C.Scopes s s') (h : C.tree n m) :
    C.Agree (PackageDecl.mapSpans C.span) (s.package n) (s'.package m) := by
  refine hs.bindNode h fun c d hcd => (hs.annotations h).bind fun xs ys hxys => Agree.pure ?_
  simp [PackageDecl.mapSpans, dottedName_eq hcd, hxys, C.span_eq h]

theorem package? (hs : C.Scopes s s') (h : C.tree n m) :
    C.Agree (Option.map (PackageDecl.mapSpans C.span)) (s.package? n) (s'.package? m) := by
  rcases node?_cases h .packageDeclaration with ⟨hn, hm⟩ | ⟨c, d, hn, hm, hcd⟩
  · simp only [Scope.package?, hn, hm]
    exact Agree.ok rfl
  · simp only [Scope.package?, hn, hm]
    refine (hs.package hcd).bind fun x y hxy => Agree.pure ?_
    rw [Option.map_some, Option.map_some, hxy]

theorem importOf (hs : C.Scopes s s') (h : C.tree n m) (parts : List String)
    (aliasName : Option String) :
    C.Agree id (s.importOf n parts aliasName) (s'.importOf m parts aliasName) := by
  have hstatic : n.has .staticMark = m.has .staticMark := C.has_eq h (by decide)
  have hstar : n.has .star = m.has .star := C.has_eq h (by decide)
  rw [Scope.importOf, Scope.importOf, hstatic, hstar]
  split
  · exact Agree.ok rfl
  · exact Agree.ok rfl
  · exact hs.refuse h _
  · exact Agree.ok rfl
  · exact Agree.ok rfl
  · exact hs.refuse h _

theorem importDecl (hs : C.Scopes s s') (h : C.tree n m) :
    C.Agree (ImportDecl.mapSpans C.span) (s.importDecl n) (s'.importDecl m) := by
  refine hs.bindNode h fun c d hcd => (hs.annotations h).bind fun xs ys hxys => ?_
  rw [parts_eq hcd, text?_eq h (by decide)]
  refine (hs.importOf h _ _).bind fun i j hij => Agree.pure ?_
  obtain rfl : i = j := hij
  simp [ImportDecl.mapSpans, hxys, C.span_eq h]

end Scopes

/-! ## Statements and methods of a file -/

/-- Options that agree.  Where the comparison excuses what options forbid, the second lowering may
be given more. -/
structure Options (C : Comparison) (options options' : LowerOptions) : Prop where
  blankScriptReturn : options.blankScriptReturn = options'.blankScriptReturn
  maxDepth : C.Levels options.maxDepth options.maxDepth options'.maxDepth options'.maxDepth
  allowScriptMethods : options.allowScriptMethods = options'.allowScriptMethods ∨
    (∀ p, C.excuses (.invalid .scriptMethod p)) ∧ options.allowScriptMethods = false

theorem Options.refl (options : LowerOptions) : C.Options options options :=
  ⟨rfl, Or.inl ⟨rfl, rfl⟩, Or.inl rfl⟩

/-- What is kept of a statement at the top level. -/
def topLevel (C : Comparison) : TopLevel → TopLevel
  | .statements list => .statements (list.map (Stmt.mapSpans C.span))
  | .method m => .method (m.mapSpans C.span)

theorem methods_eq {xs ys : List TopLevel} (h : xs.map C.topLevel = ys.map C.topLevel) :
    (xs.filterMap TopLevel.method?).map (MethodDecl.mapSpans C.span) =
      (ys.filterMap TopLevel.method?).map (MethodDecl.mapSpans C.span) :=
  filterMap_eq TopLevel.method? (fun x => by cases x <;> rfl) h

theorem scriptStatements_eq {xs ys : List TopLevel} (h : xs.map C.topLevel = ys.map C.topLevel) :
    (xs.flatMap TopLevel.toStatements).map (Stmt.mapSpans C.span) =
      (ys.flatMap TopLevel.toStatements).map (Stmt.mapSpans C.span) := by
  have hitem : ∀ x : TopLevel,
      x.toStatements.map (Stmt.mapSpans C.span) = (C.topLevel x).toStatements := by
    intro x
    cases x <;> rfl
  have := congrArg (List.flatMap TopLevel.toStatements) h
  simpa [List.map_flatMap, List.flatMap_map, Function.comp_def, hitem] using this

variable {options options' : LowerOptions}

theorem blankReturn_eq (hoptions : C.Options options options') (h : C.tree n m) :
    (blankReturn options n).map (Stmt.mapSpans C.span) =
      (blankReturn options' m).map (Stmt.mapSpans C.span) := by
  have hstatement : n.has .statement = m.has .statement := C.has_eq h (by decide)
  rw [blankReturn, blankReturn, hstatement, hoptions.blankScriptReturn]
  split
  · simp [Expr.null, Expr.constant, C.span_eq h]
  · rfl

namespace Scopes

theorem topLevel (hs : C.Scopes s s') (hoptions : C.Options options options') (h : C.tree n m) :
    C.Agree C.topLevel (s.topLevel options n) (s'.topLevel options' m) := by
  rw [Scope.topLevel, Scope.topLevel, C.kind_eq h]
  split
  · rcases hoptions.allowScriptMethods with hallow | ⟨hexcused, hforbidden⟩
    · rw [hallow]
      split
      · exact (hs.method h).bind fun x y hxy => Agree.pure (congrArg TopLevel.method hxy)
      · exact Agree.error (by simp only [error, C.span_eq h])
    · rw [hforbidden]
      exact Agree.excused (hexcused _) _
  · exact (hs.blockStatement h).bind fun x y hxy => Agree.pure (congrArg TopLevel.statements hxy)

end Scopes

/-! ## Files -/

namespace Agree

theorem lowerUnit (hoptions : C.Options options options') (h : C.tree n m) :
    C.Agree (CompilationUnit.mapSpans C.span) (lowerUnit options n) (lowerUnit options' m) := by
  have hs : C.Scopes (.outermost options.maxDepth) (.outermost options'.maxDepth) :=
    Scopes.level hoptions.maxDepth rfl
  rw [GroovyLowering.lowerUnit, GroovyLowering.lowerUnit, C.kind_eq h]
  split
  · refine (hs.package? h).bind fun package package' hpackage => ?_
    refine Agree.bind (k := List.map (ImportDecl.mapSpans C.span))
      (Agree.mapM (C.nodes h _) fun _ _ => hs.importDecl) fun imports imports' himports => ?_
    refine Agree.bind (k := List.map C.topLevel)
      (Agree.mapM (C.nodes h _) fun _ _ => hs.topLevel hoptions) fun items items' hitems => ?_
    refine Agree.pure ?_
    simp only [CompilationUnit.mapSpans, List.map_append, hpackage, himports, methods_eq hitems,
      scriptStatements_eq hitems, blankReturn_eq hoptions h, C.span_eq h]
  · exact hs.refuse h _

theorem lower (hoptions : C.Options options options') (h : C.tree n m)
    (diagnostics : List ParserDiagnostic) :
    C.Agree (CompilationUnit.mapSpans C.span) (lower options ⟨n, diagnostics⟩)
      (lower options' ⟨m, diagnostics⟩) := by
  rw [GroovyLowering.lower, GroovyLowering.lower]
  dsimp only
  split
  · exact Agree.error rfl
  · exact lowerUnit hoptions h

end Agree

end Comparison

end GroovyLowering
