import GroovyLowering.Lower.Unit
import GroovyLowering.Proofs.Failure.Statement
import GroovyLowering.Tree.Construct.Declaration

/-!
# Failures of files

The scopes of all levels locate their failures, by induction on the levels that are left.  The scope
of the level inside a node with tokens has its place, so a part without tokens is refused within the
node.

The scope outside of all statements has the start of the file as its place.  A statement at the top
level is lowered with the scope inside it, but a declaration, a labelled statement and a method are
lowered with the one outside.  So a part of these without tokens is refused at the start of the
file, and the target of an assignment without tokens is so everywhere.  Every other failure points
at its statement (`lower_failure_place`).
-/

namespace GroovyLowering

open Lowered (exists_of_bind)

variable {m n : Node} {e : CompileError} {options : LowerOptions}

/-! ## All levels -/

theorem Scope.level_enclosing (limit left : Nat) (place : Span) :
    (level limit left place).enclosing = place := by
  cases left <;> rfl

theorem Scope.locates_level (limit left : Nat) (place : Span)
    (horder : Token.InOrder m.allTokens) : (level limit left place).Locates m := by
  induction left generalizing place with
  | zero =>
    refine ⟨horder, ?_, ?_, ?_⟩
    · intro n hn
      exact .error (.of_spanOr horder hn .tooDeep)
    · intro n hn
      exact .error (.of_spanOr horder hn .tooDeep)
    · intro n e _ he
      cases he
  | succ left ih =>
    -- The place of the level inside a node is the one of the node, or else the same.
    have hinside : ∀ {n : Node} {e : CompileError}, n.IsPartOf m →
        e.PointsAt m (level limit left (n.spanOr place)).enclosing → e.PointsAt m place := by
      intro n e hn he
      rw [level_enclosing] at he
      by_cases hbare : n.allTokens = []
      · rw [Node.spanOr_of_eq_nil hbare] at he
        exact he
      · exact he.of_within (Node.spanOr_within horder hn.sublist hbare) place
    refine ⟨horder, ?_, ?_, ?_⟩
    · intro n hn e he
      exact hinside hn ((ih _).expression hn e he)
    · intro n hn e he
      exact hinside hn ((ih _).statement hn e he)
    · intro n e hn he hprimitive
      exact (ih _).primitive_expression hn he hprimitive

/-! ## Statements at the top level -/

/-- A part without tokens does not matter inside the level of a statement with tokens. -/
theorem Scope.stmt_pointsAt (horder : Token.InOrder m.allTokens) (hne : m.allTokens ≠ [])
    {limit : Nat} (he : (outermost limit).stmt m = .error e) (place : Span) :
    e.PointsAt m place := by
  have hself : m.IsPartOf m := .refl
  have hwithin : (m.spanOr .fileStart).Within m.span :=
    Node.spanOr_within horder hself.sublist hne
  cases limit with
  | zero =>
    cases he
    exact .within hwithin
  | succ left =>
    have hlevel := locates_level (left + 1) left (m.spanOr .fileStart) horder
    have hpoints := hlevel.statement hself e he
    rw [level_enclosing] at hpoints
    exact hpoints.of_within hwithin place

/-- The statements that are not lowered with a scope inside them. -/
def NodeKind.isOutside : NodeKind → Bool
  | .localVariableDeclaration | .labeledStatement | .methodDeclaration => true
  | _ => false

/-- A failure of a statement points at it, or it is at the start of the file. -/
theorem Scope.topLevel_pointsAt (horder : Token.InOrder m.allTokens) (hne : m.allTokens ≠ [])
    (he : (outermost options.maxDepth).topLevel options m = .error e) :
    e.PointsAt m .fileStart := by
  have hself : m.IsPartOf m := .refl
  have hs : (outermost options.maxDepth).Locates m := locates_level _ _ _ horder
  have hplace : (outermost options.maxDepth).enclosing = .fileStart := level_enclosing _ _ _
  rw [topLevel] at he
  split at he
  · split at he
    · rw [← hplace]
      exact (hs.method hself).map e he
    · cases he
      exact .within (Node.spanOr_within horder hself.sublist hne)
  · rw [← hplace]
    exact (hs.blockStatement hself).map e he

/-- A failure of a statement that is lowered with a scope inside it points at it. -/
theorem Scope.topLevel_pointsAt_inside (horder : Token.InOrder m.allTokens)
    (hne : m.allTokens ≠ []) (hkind : m.kind.isOutside = false)
    (he : (outermost options.maxDepth).topLevel options m = .error e) (place : Span) :
    e.PointsAt m place := by
  rw [topLevel] at he
  split at he
  · next h =>
    rw [h] at hkind
    cases hkind
  · rcases Lowered.error_of_bind he with hfails | ⟨_, _, h⟩
    · rw [blockStatement_eq] at hfails
      split at hfails
      · next h =>
        rw [h] at hkind
        cases hkind
      · next h =>
        rw [h] at hkind
        cases hkind
      · cases hfails
        exact .within (Node.spanOr_within horder (List.Sublist.refl _) hne)
      · next h =>
        rw [h] at hkind
        cases hkind
      · rcases Lowered.error_of_bind hfails with h | ⟨_, _, h⟩
        · exact stmt_pointsAt horder hne h place
        · cases h
    · cases h

/-! ## Files -/

/-- A statement is the first part of a file that is not lowered. -/
structure Node.IsFirstFailure (options : LowerOptions) (root m : Node) : Prop where
  kind : root.kind = .compilationUnit
  package : ∃ p, (Scope.outermost options.maxDepth).package? root = .ok p
  imports : ∀ i ∈ root.nodes .importDeclaration,
    ∃ x, (Scope.outermost options.maxDepth).importDecl i = .ok x
  statements : ∃ before after, root.nodes .statement = before ++ m :: after ∧
    ∀ x ∈ before, ∃ item, (Scope.outermost options.maxDepth).topLevel options x = .ok item
  fails : ∃ e, (Scope.outermost options.maxDepth).topLevel options m = .error e

theorem Node.IsFirstFailure.mem_nodes {root : Node} (h : root.IsFirstFailure options m) :
    m ∈ root.nodes .statement := by
  obtain ⟨before, after, hstatements, _⟩ := h.statements
  rw [hstatements]
  exact List.mem_append_right _ List.mem_cons_self

/-- A file fails as its first statement that does. -/
theorem Node.IsFirstFailure.lowerUnit_eq {root : Node} (h : root.IsFirstFailure options m)
    (he : (Scope.outermost options.maxDepth).topLevel options m = .error e) :
    lowerUnit options root = .error e := by
  obtain ⟨package, hpackage⟩ := h.package
  obtain ⟨imports, himports⟩ := Lowered.exists_mapM_of_forall h.imports
  obtain ⟨before, after, hstatements, hbefore⟩ := h.statements
  have hitems : (before ++ m :: after).mapM
      ((Scope.outermost options.maxDepth).topLevel options) = .error e :=
    Lowered.mapM_eq_error hbefore he
  rw [lowerUnit, if_pos h.kind, hstatements, Lowered.bind_of_ok hpackage,
    Lowered.bind_of_ok himports, hitems]
  rfl

theorem ParserDiagnostic.kind_of_error? {d : ParserDiagnostic} (h : d.error? = some e) :
    e.kind = .relayed := by
  cases d with
  | syntaxError =>
    cases h
    rfl
  | _ => cases h

/-- What is not relayed from the parser is the failure of the first statement that fails. -/
theorem Node.IsFirstFailure.topLevel_eq {file : ParsedFile}
    (hfirst : file.root.IsFirstFailure options m) (h : lower options file = .error e)
    (hkind : e.kind ≠ .relayed) :
    (Scope.outermost options.maxDepth).topLevel options m = .error e := by
  obtain ⟨e', he'⟩ := hfirst.fails
  rw [lower] at h
  split at h
  · next hrelayed =>
    cases h
    obtain ⟨d, _, hd⟩ := List.exists_of_findSome?_eq_some hrelayed
    exact absurd (ParserDiagnostic.kind_of_error? hd) hkind
  · rw [hfirst.lowerUnit_eq he'] at h
    cases h
    exact he'

/-- **A failure points at the statement that caused it**, with two exceptions at the start of the
file.  A part without tokens of a declaration, of a labelled statement or of a method is refused
there, and so is the target of an assignment without tokens. -/
theorem lower_failure_place {root : Node} {diagnostics : List ParserDiagnostic}
    (h : lower options ⟨root.layOut.root, diagnostics⟩ = .error e) (hkind : e.kind ≠ .relayed)
    (hfirst : root.layOut.root.IsFirstFailure options m) (hne : m.allTokens ≠ []) :
    e.span.Within m.span ∨
    (m.kind.isOutside = true ∧
      ∃ c : Node, c.IsPartOf m ∧ c.allTokens = [] ∧ e.IsAbout c .fileStart) ∨
    (e = .invalid .assignedToNonVariable .fileStart ∧ ∃ n left : Node, n.IsPartOf m ∧
      n.kind = .assignment ∧ n.node? .left = some left ∧ left.allTokens = []) := by
  have horder : Token.InOrder m.allTokens :=
    root.inOrder_layOut.sublist (Node.isChildOf_of_mem_nodes hfirst.mem_nodes).sublist
  have hfails := hfirst.topLevel_eq h hkind
  cases houtside : m.kind.isOutside with
  | false =>
    have hself : m.span.Within m.span := Node.spanOr_within horder (List.Sublist.refl _) hne
    cases Scope.topLevel_pointsAt_inside horder hne houtside hfails m.span with
    | within h => exact .inl h
    | bare _ _ habout =>
      rw [habout.span_eq]
      exact .inl hself
    | target hn hassign hleft hbare => exact .inr (.inr ⟨rfl, _, _, hn, hassign, hleft, hbare⟩)
  | true =>
    cases Scope.topLevel_pointsAt horder hne hfails with
    | within h => exact .inl h
    | bare hc hbare habout => exact .inr (.inl ⟨rfl, _, hc, hbare, habout⟩)
    | target hn hassign hleft hbare => exact .inr (.inr ⟨rfl, _, _, hn, hassign, hleft, hbare⟩)

/-! ## Failures behind another statement -/

/-- Whether a file is two statements, of which the first one is lowered and the second one fails
with an error that passes a test. -/
def Node.secondFails (options : LowerOptions) (test : Node → CompileError → Bool) (root : Node) :
    Bool :=
  let s := Scope.outermost options.maxDepth
  match root.nodes .statement with
  | [x, m] =>
    decide (root.kind = .compilationUnit) && !root.has .packageDeclaration &&
      !root.has .importDeclaration && (s.topLevel options x).toOption.isSome &&
      decide (m.allTokens ≠ []) &&
      match s.topLevel options m with
      | .ok _ => false
      | .error e => test m e
  | _ => false

theorem Node.exists_isFirstFailure {root : Node} {test : Node → CompileError → Bool}
    (h : root.secondFails options test = true) :
    ∃ m e, root.IsFirstFailure options m ∧ m.allTokens ≠ [] ∧
      lower options ⟨root, []⟩ = .error e ∧ test m e = true := by
  unfold Node.secondFails at h
  dsimp only at h
  split at h
  · next x m hstatements =>
    simp only [Bool.and_eq_true, Bool.not_eq_true', decide_eq_true_eq] at h
    obtain ⟨⟨⟨⟨⟨hkind, hpackage⟩, himports⟩, hx⟩, hne⟩, hm⟩ := h
    split at hm
    · cases hm
    · next e he =>
      have hfirst : root.IsFirstFailure options m := by
        refine ⟨hkind, ⟨none, ?_⟩, ?_, ⟨[x], [], hstatements, ?_⟩, e, he⟩
        · have hnone : root.node? .packageDeclaration = none := by
            rw [Node.node?, Scope.nodes_eq_nil_of_has hpackage]
            rfl
          rw [Scope.package?, hnone]
        · rw [Scope.nodes_eq_nil_of_has himports]
          exact List.forall_mem_nil _
        · refine List.forall_mem_singleton.2 ?_
          cases hresult : (Scope.outermost options.maxDepth).topLevel options x with
          | ok item => exact ⟨item, rfl⟩
          | error e' =>
            rw [hresult] at hx
            cases hx
      exact ⟨m, e, hfirst, hne, hfirst.lowerUnit_eq he, hm⟩
  · cases h

open Production

/-- A name without a token, in parentheses, is refused at the parentheses. -/
theorem lower_failure_place_parentheses :
    let root := (Production.unit [expressionStatement (identifier "a"),
      expressionStatement (parenthesized (Node.bare .identifier))]).layOut.root
    ∃ m e, root.IsFirstFailure {} m ∧ m.allTokens ≠ [] ∧ lower {} ⟨root, []⟩ = .error e ∧
      e.kind ≠ .relayed ∧
      (e.span.Within m.span ∨
        (m.kind.isOutside = true ∧
          ∃ c : Node, c.IsPartOf m ∧ c.allTokens = [] ∧ e.IsAbout c .fileStart) ∨
        (e = .invalid .assignedToNonVariable .fileStart ∧ ∃ n left : Node, n.IsPartOf m ∧
          n.kind = .assignment ∧ n.node? .left = some left ∧ left.allTokens = [])) := by
  intro root
  have hfails : root.secondFails {} (fun _ e => decide (e.kind ≠ .relayed)) = true := by
    decide +kernel
  obtain ⟨m, e, hfirst, hne, hlower, hkind⟩ := Node.exists_isFirstFailure hfails
  have hrelayed : e.kind ≠ .relayed := of_decide_eq_true hkind
  exact ⟨m, e, hfirst, hne, hlower, hrelayed, lower_failure_place hlower hrelayed hfirst hne⟩

/-- A declarator without tokens, and the target of an assignment without tokens: each is refused at
the start of the file, in front of its statement. -/
theorem lower_failure_outside :
    let declaration := localVariable [modifier "def"] none [Node.bare .variableDeclarator]
    let assigned := expressionStatement (assignment (Node.bare .list) "=" (integer "1"))
    ∀ statement ∈ [declaration, assigned],
      let root := (Production.unit [expressionStatement (identifier "a"), statement]).layOut.root
      ∃ m e, root.IsFirstFailure {} m ∧ m.allTokens ≠ [] ∧ lower {} ⟨root, []⟩ = .error e ∧
        e.kind ≠ .relayed ∧ ¬e.span.Within m.span := by
  intro declaration assigned statement hstatement root
  have houtside : root.secondFails {}
      (fun m e => decide (e.kind ≠ .relayed ∧ ¬e.span.Within m.span)) = true := by
    rcases List.mem_pair.1 hstatement with rfl | rfl
    · decide +kernel
    · decide +kernel
  obtain ⟨m, e, hfirst, hne, hlower, htest⟩ := Node.exists_isFirstFailure houtside
  obtain ⟨hkind, hwithin⟩ := of_decide_eq_true htest
  exact ⟨m, e, hfirst, hne, hlower, hkind, hwithin⟩

end GroovyLowering
