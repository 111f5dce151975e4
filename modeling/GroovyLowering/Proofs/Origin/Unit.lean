import GroovyLowering.Lower.Unit
import GroovyLowering.Proofs.Origin.Statement

/-!
# The spans of files

What is lowered outside of all statements and expressions has good spans, if the nodes that it is
lowered from are looked at: a package, an import, a statement or method at the top level, and the
whole file (`Origin.good_of_topLevel`, `Origin.good_of_lowerUnit`).

A file that is lowered has the results of its statements and methods, each in its place
(`Lowered.exists_of_lowerUnit`).
-/

namespace GroovyLowering

open Lowered (Keeps)

variable {options : LowerOptions} {n : Node}

/-! ## What a statement at the top level gives -/

namespace TopLevel

/-- The spans of what a statement at the top level gives. -/
def spans : TopLevel → List Span
  | .statements list => list.flatMap Stmt.spans
  | .method m => m.spans

/-- What a statement at the top level gives, with every span replaced. -/
def mapSpans (f : Span → Span) : TopLevel → TopLevel
  | .statements list => .statements (list.map (Stmt.mapSpans f))
  | .method m => .method (m.mapSpans f)

variable (f : Span → Span)

theorem mapSpans_eq_self_iff (item : TopLevel) : item.mapSpans f = item ↔ AllStay f item.spans := by
  cases item with
  | statements list =>
    simp only [mapSpans, spans, statements.injEq, map_eq_self_iff (Stmt.mapSpans_eq_self_iff f)]
  | method m => simp only [mapSpans, spans, method.injEq, MethodDecl.mapSpans_eq_self_iff f]

theorem toStatements_mapSpans (item : TopLevel) :
    (item.mapSpans f).toStatements = item.toStatements.map (Stmt.mapSpans f) := by
  cases item <;> rfl

theorem method?_mapSpans (item : TopLevel) :
    (item.mapSpans f).method? = item.method?.map (MethodDecl.mapSpans f) := by
  cases item <;> rfl

variable {f} {items : List TopLevel}

theorem toStatements_stays (h : items.map (mapSpans f) = items) :
    (items.flatMap toStatements).map (Stmt.mapSpans f) = items.flatMap toStatements := by
  calc (items.flatMap toStatements).map (Stmt.mapSpans f)
    _ = items.flatMap fun item => item.toStatements.map (Stmt.mapSpans f) := List.map_flatMap
    _ = items.flatMap fun item => (item.mapSpans f).toStatements := by
      simp only [toStatements_mapSpans]
    _ = (items.map (mapSpans f)).flatMap toStatements := (List.flatMap_map ..).symm
    _ = items.flatMap toStatements := by rw [h]

theorem method?_stays (h : items.map (mapSpans f) = items) :
    (items.filterMap method?).map (MethodDecl.mapSpans f) = items.filterMap method? := by
  calc (items.filterMap method?).map (MethodDecl.mapSpans f)
    _ = items.filterMap fun item => item.method?.map (MethodDecl.mapSpans f) := List.map_filterMap
    _ = items.filterMap fun item => (item.mapSpans f).method? := by simp only [method?_mapSpans]
    _ = (items.map (mapSpans f)).filterMap method? := by rw [List.filterMap_map]; rfl
    _ = items.filterMap method? := by rw [h]

end TopLevel

/-! ## One construct at a time -/

namespace Scope.From

variable {O : Origin} {s : Scope}

theorem package? (hs : s.From O) (h : O.node n) :
    (s.package? n).Keeps (Option.map (PackageDecl.mapSpans O.keep)) := by
  rw [Scope.package?]
  split
  · next child hchild =>
    have hnode := O.child? h hchild rfl
    refine Keeps.present (.skip fun name => (hs.annotations hnode).bind fun as has => .pure ?_)
    simp only [PackageDecl.mapSpans, has, O.keep_span hnode]
  · exact .missing

theorem importDecl (hs : s.From O) (h : O.node n) :
    (s.importDecl n).Keeps (ImportDecl.mapSpans O.keep) := by
  refine .skip fun name => (hs.annotations h).bind fun as has => .skip fun parts => .pure ?_
  simp only [ImportDecl.mapSpans, has, O.keep_span h]

theorem topLevel (hs : s.From O) (h : O.node n) :
    (s.topLevel options n).Keeps (TopLevel.mapSpans O.keep) := by
  rw [Scope.topLevel]
  split
  · next hkind =>
    split
    · exact (hs.method h hkind).bind fun m hm => .pure (congrArg TopLevel.method hm)
    · exact .error
  · exact (hs.blockStatement n h).bind fun xs hxs => .pure (congrArg TopLevel.statements hxs)

end Scope.From

theorem Origin.blankReturn_stays {O : Origin} (h : O.node n) :
    (blankReturn options n).map (Stmt.mapSpans O.keep) = blankReturn options n := by
  rw [blankReturn]
  split
  · simp [Expr.null, Expr.constant, O.keep_span h]
  · rfl

theorem Origin.keeps_lowerUnit {O : Origin} (h : O.node n) :
    (lowerUnit options n).Keeps (CompilationUnit.mapSpans O.keep) := by
  have hs := Scope.from_outermost (O := O) options.maxDepth
  have himports : ((n.nodes .importDeclaration).mapM
      (Scope.outermost options.maxDepth).importDecl).Keeps
        (List.map (ImportDecl.mapSpans O.keep)) :=
    .mapM fun i hi => hs.importDecl (O.child h hi rfl)
  have hitems : ((n.nodes .statement).mapM
      ((Scope.outermost options.maxDepth).topLevel options)).Keeps
        (List.map (TopLevel.mapSpans O.keep)) :=
    .mapM fun x hx => hs.topLevel (O.child h hx rfl)
  rw [lowerUnit]
  split
  · refine (hs.package? h).bind fun package hpackage => ?_
    refine himports.bind fun imports himports => hitems.bind fun items hitems => .pure ?_
    simp only [CompilationUnit.mapSpans, List.map_append, hpackage, himports,
      TopLevel.toStatements_stays hitems, TopLevel.method?_stays hitems, O.blankReturn_stays h,
      O.keep_span h]
  · exact .refuse

/-! ## All spans of a result -/

/-- All spans of a statement or a method at the top level are good. -/
theorem Origin.good_of_topLevel (O : Origin) (h : O.node n) {limit : Nat} {item : TopLevel}
    (hitem : (Scope.outermost limit).topLevel options n = .ok item) :
    ∀ p ∈ item.spans, O.good p := by
  have hstays := (Scope.from_outermost (O := O) limit).topLevel h item hitem
  exact fun p hp => keep_eq_self_iff.1 ((item.mapSpans_eq_self_iff O.keep).1 hstays p hp)

/-- All spans of a file are good. -/
theorem Origin.good_of_lowerUnit (O : Origin) (h : O.node n) {unit : CompilationUnit}
    (hunit : lowerUnit options n = .ok unit) : ∀ p ∈ unit.spans, O.good p := by
  have hstays := O.keeps_lowerUnit h unit hunit
  exact fun p hp => keep_eq_self_iff.1 ((unit.mapSpans_eq_self_iff O.keep).1 hstays p hp)

/-! ## The parts of a file -/

/-- A file that is lowered has the results of its statements and methods. -/
theorem Lowered.exists_of_lowerUnit {unit : CompilationUnit} (h : lowerUnit options n = .ok unit) :
    ∃ items, unit.statements = items.flatMap TopLevel.toStatements ++ blankReturn options n ∧
      unit.methods = items.filterMap TopLevel.method? ∧ unit.span = n.span ∧
      List.Forall₂
        (fun m item => (Scope.outermost options.maxDepth).topLevel options m = .ok item)
        (n.nodes .statement) items := by
  rw [lowerUnit] at h
  split at h
  · obtain ⟨package, _, h⟩ := Lowered.exists_of_bind h
    obtain ⟨imports, _, h⟩ := Lowered.exists_of_bind h
    obtain ⟨items, hitems, h⟩ := Lowered.exists_of_bind h
    cases h
    exact ⟨items, rfl, rfl, rfl, Lowered.forall₂_of_mapM hitems⟩
  · cases h

end GroovyLowering
