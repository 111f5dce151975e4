import GroovyLowering.Builder.Unit
import GroovyLowering.Proofs.Builder.Expression
import GroovyLowering.Proofs.Builder.Statement
import GroovyLowering.Proofs.Construct
import GroovyLowering.Tree.Construct.Declaration

/-!
# A builder never carries anything over

One level deeper the builder has another state, and `nested` puts it back on success and on failure
alike.  So if what is inside restores the deeper state, the level restores the state around it, and
by induction on the levels that are left every level does (`Walk.level_follows`).  A file is built
outside of all levels (`Builder.unit_yields`).

It follows that in a session every file is lowered as by a fresh builder, whatever stands in front
of it (`Builder.session_eq_map`), and that the statements of a file do not see each other either: a
file is lowered like two files one after another (`lowerUnit_append`).
-/

namespace GroovyLowering

open Building

variable {α : Type}

/-! ## Levels -/

/-- A level restores the state around it, if what is inside restores the state that it has. -/
theorem Building.Yields.nested {n : Node} {inner : Building α} {b : Builder} {r : Lowered α}
    (hdepth : b.depth < b.options.maxDepth)
    (h : inner.Yields { b with depth := b.depth + 1, enclosing := n.spanOr b.enclosing } r) :
    (Building.nested n inner).Yields b r := by
  rw [Yields, Building.nested, if_neg (Nat.not_le.2 hdepth), h]
  rfl

/-- A builder with levels left does inside a construct what the scope with as many levels does. -/
theorem Walk.level_follows {b : Builder} {left : Nat}
    (hleft : b.depth + left = b.options.maxDepth) :
    (Walk.level left).Follows b (.level b.options.maxDepth left b.enclosing) := by
  induction left generalizing b with
  | zero => exact ⟨rfl, fun _ => rfl, fun _ => rfl⟩
  | succ left ih =>
    have hdepth : b.depth < b.options.maxDepth := by omega
    have hinner : ∀ place, (Walk.level left).Follows
        { b with depth := b.depth + 1, enclosing := place }
        (.level b.options.maxDepth left place) := by
      intro place
      apply ih
      show b.depth + 1 + left = b.options.maxDepth
      omega
    refine ⟨rfl, ?_, ?_⟩
    · intro n
      show (Building.nested n ((Walk.level left).expression n)).Yields b
        ((Scope.level b.options.maxDepth left (n.spanOr b.enclosing)).expression n)
      exact Yields.nested hdepth ((hinner _).expression n)
    · intro n
      show (Building.nested n ((Walk.level left).statement n)).Yields b
        ((Scope.level b.options.maxDepth left (n.spanOr b.enclosing)).statement n)
      exact Yields.nested hdepth ((hinner _).statement n)

/-! ## Files -/

namespace Walk.Follows

variable {w : Walk} {b : Builder} {s : Scope}

theorem package (h : w.Follows b s) (n : Node) : (w.package n).Yields b (s.package n) := by
  rw [Walk.package, Scope.package]
  exact (h.node n .name).bind fun name => (h.annotations n).bind fun _ => .pure _

theorem importDecl (h : w.Follows b s) (n : Node) :
    (w.importDecl n).Yields b (s.importDecl n) := by
  rw [Walk.importDecl, Scope.importDecl]
  refine (h.node n .name).bind fun name => (h.annotations n).bind fun annotations => ?_
  have himport : Scope.Reads fun s =>
      s.importOf n name.parts ((n.token? .aliasName).map Token.text) := by
    intro place expr expr' stmt stmt'
    simp only [Scope.importOf]
    cases n.has .staticMark <;> cases n.has .star <;> cases name.parts.getLast? <;> rfl
  exact (h.look himport).bind fun _ => .pure _

theorem topLevel (h : w.Follows b s) (options : LowerOptions) (n : Node) :
    (w.topLevel options n).Yields b (s.topLevel options n) := by
  refine .ite (.ite ?_ (h.look fun _ _ _ _ _ => rfl)) ?_
  · exact (h.method n).bind fun _ => .pure _
  · exact (h.blockStatement n).bind fun _ => .pure _

theorem package? (h : w.Follows b s) (n : Node) : (w.package? n).Yields b (s.package? n) := by
  rw [Walk.package?, Scope.package?]
  cases n.node? .packageDeclaration with
  | some child => exact (h.package child).bind fun _ => .pure _
  | none => exact .pure _

theorem unit {options : LowerOptions} (h : w.Follows b (.outermost options.maxDepth)) (n : Node) :
    (w.unit options n).Yields b (lowerUnit options n) := by
  rw [Walk.unit, lowerUnit]
  generalize Scope.outermost options.maxDepth = s at h ⊢
  refine .ite ?_ (h.refuse _ _)
  refine (h.package? n).bind fun package => ?_
  refine Yields.bind (.mapM fun child _ => h.importDecl child) fun imports => ?_
  exact Yields.bind (.mapM fun child _ => h.topLevel options child) fun _ => .pure _

end Walk.Follows

namespace Builder

variable {options : LowerOptions}

/-- A fresh builder lowers a file as it is lowered without a state, and is fresh afterwards. -/
theorem unit_yields (options : LowerOptions) (n : Node) :
    (Builder.unit n).Yields (.fresh options) (lowerUnit options n) := by
  have hoptions : (Builder.fresh options).options = options := rfl
  have h : (Walk.level options.maxDepth).Follows (.fresh options) (.outermost options.maxDepth) :=
    Walk.level_follows (Nat.zero_add _)
  rw [Yields, Builder.unit, hoptions]
  exact h.unit n

theorem session_eq_map (options : LowerOptions) (roots : List Node) :
    session (.fresh options) roots = roots.map (lowerUnit options) := by
  induction roots with
  | nil => rfl
  | cons n roots ih =>
    have hunit : Builder.unit n (.fresh options) = (lowerUnit options n, .fresh options) :=
      unit_yields options n
    rw [session, hunit, List.map_cons]
    exact congrArg _ ih

end Builder

/-! ## The statements of a file -/

/-- A file of statements only is lowered statement by statement. -/
theorem lowerUnit_statements (options : LowerOptions) {xs : List Node} (hxs : xs ≠ []) :
    lowerUnit options (Production.unit xs) = do
      let items ← xs.mapM ((Scope.outermost options.maxDepth).topLevel options)
      return { package := none, imports := []
               statements := items.flatMap TopLevel.toStatements
               methods := items.filterMap TopLevel.method?
               span := (Production.unit xs).span } := by
  have hnodes : (Production.unit xs).nodes .statement = xs := by simp [Production.unit]
  have hhas : (Production.unit xs).has .statement = true := by
    by_contra hhas
    rw [Scope.nodes_eq_nil_of_has (Bool.eq_false_iff.2 hhas)] at hnodes
    exact hxs hnodes.symm
  have hblank : blankReturn options (Production.unit xs) = [] := by
    rw [blankReturn, hhas]
    rfl
  have hpackage : (Production.unit xs).node? .packageDeclaration = none := by
    simp [Production.unit, Node.node?]
  have himports : (Production.unit xs).nodes .importDeclaration = [] := by simp [Production.unit]
  have hkind : (Production.unit xs).kind = .compilationUnit := by simp [Production.unit]
  simp only [lowerUnit, hkind, if_true, Scope.package?, hpackage, himports, hnodes, hblank,
    List.append_nil]
  rfl

/-- A file is lowered like two files one after another. -/
theorem lowerUnit_append (options : LowerOptions) {xs ys : List Node} (hxs : xs ≠ [])
    (hys : ys ≠ []) :
    lowerUnit options (Production.unit (xs ++ ys)) = do
      let front ← lowerUnit options (Production.unit xs)
      let back ← lowerUnit options (Production.unit ys)
      return { package := none, imports := []
               statements := front.statements ++ back.statements
               methods := front.methods ++ back.methods
               span := (Production.unit (xs ++ ys)).span } := by
  rw [lowerUnit_statements options hxs, lowerUnit_statements options hys,
    lowerUnit_statements options (List.append_ne_nil_of_left_ne_nil hxs ys), List.mapM_append]
  simp only [bind_assoc, pure_bind, List.flatMap_append, List.filterMap_append]

namespace Builder

/-- **Nothing is carried over.**  In a session with one builder, every file is lowered as by a fresh
builder, whichever of them fail and however deep, and the builder is fresh after each of them.
Within a file the same holds between its statements: what is lowered of some statements and others
behind them is what is lowered of both on their own, in order, and the first failure is the one of
the statements in front if they fail. -/
theorem session_restores (options : LowerOptions) :
    (∀ roots, session (.fresh options) roots =
        roots.map fun n => (Builder.unit n (.fresh options)).1) ∧
      (∀ n, Builder.unit n (.fresh options) = (lowerUnit options n, .fresh options)) ∧
      ∀ xs ys : List Node, xs ≠ [] → ys ≠ [] →
        (Builder.unit (Production.unit (xs ++ ys)) (.fresh options)).1 = do
          let front ← (Builder.unit (Production.unit xs) (.fresh options)).1
          let back ← (Builder.unit (Production.unit ys) (.fresh options)).1
          return { package := none, imports := []
                   statements := front.statements ++ back.statements
                   methods := front.methods ++ back.methods
                   span := (Production.unit (xs ++ ys)).span } := by
  have hunit : ∀ n, Builder.unit n (.fresh options) = (lowerUnit options n, .fresh options) :=
    fun n => unit_yields options n
  refine ⟨?_, hunit, ?_⟩
  · intro roots
    simp only [session_eq_map, hunit]
  · intro xs ys hxs hys
    simp only [hunit]
    exact lowerUnit_append options hxs hys

/-- With two levels, a name in parentheses is too deep and a name is not.  The failure of the first
file and of the statements behind does not show in the second file or in the statements in front. -/
theorem session_restores_tooDeep :
    let options : LowerOptions := { maxDepth := 2 }
    let deep :=
      Production.expressionStatement (Production.parenthesized (Production.identifier "a"))
    let flat := Production.expressionStatement (Production.identifier "b")
    ∃ e script, session (.fresh options) [Production.unit [deep], Production.unit [flat]] =
        [.error e, .ok script] ∧
      (Builder.unit (Production.unit ([flat] ++ [deep])) (.fresh options)).1 = .error e := by
  intro options deep flat
  obtain ⟨hsession, hunit, happend⟩ := session_restores options
  obtain ⟨script, hflat, _⟩ := Lowered.exists_of_any
    (x := lowerUnit options (Production.unit [flat])) (p := fun _ => true) (by decide +kernel)
  have hnone : (lowerUnit options (Production.unit [deep])).toOption.isNone = true := by
    decide +kernel
  cases hdeep : lowerUnit options (Production.unit [deep]) with
  | ok unit =>
    rw [hdeep] at hnone
    cases hnone
  | error e =>
    refine ⟨e, script, (hsession _).trans ?_, ?_⟩
    · simp only [List.map_cons, List.map_nil, hunit, hdeep, hflat]
    · rw [happend [flat] [deep] (List.cons_ne_nil _ _) (List.cons_ne_nil _ _), hunit, hunit, hdeep,
        hflat]
      rfl

end Builder

end GroovyLowering
