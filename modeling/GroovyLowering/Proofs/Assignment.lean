import GroovyLowering.Proofs.Invariant.Unit
import GroovyLowering.Tree.Construct.Declaration
import GroovyLowering.Tree.Layout

/-!
# What is assigned to

The lowering of an assignment refuses every target but a variable.  The lowering of an operator
between two operands does not look at the operand in front, and it reads the operators that assign
as well.  So wherever an assignment stands in a file, deep inside conditions, arguments, closures
or initializers, a variable is in front of it, unless it is itself what a node for an operator
between two operands is lowered to (`lower_assigns`).
-/

namespace GroovyLowering

/-- What may be assigned to is a variable without parentheses that is neither `this` nor `super`. -/
theorem Expr.isAssignable_iff {e : Expr} :
    e.isAssignable = true ↔ e.parenthesized = false ∧
      ∃ v, e.shape = .name v ∧ v.name ≠ "this" ∧ v.name ≠ "super" := by
  obtain ⟨shape, span, parenthesized⟩ := e
  constructor
  · intro h
    obtain ⟨hparen, hvariable⟩ := Bool.and_eq_true_iff.1 h
    cases shape with
    | name v =>
      obtain ⟨hthis, hsuper⟩ := Bool.and_eq_true_iff.1 hvariable
      exact ⟨by simpa using hparen, v, rfl, by simpa using hthis, by simpa using hsuper⟩
    | _ => cases hvariable
  · rintro ⟨hparen, v, hshape, hthis, hsuper⟩
    cases hparen
    cases hshape
    simp [Expr.isAssignable, Expr.asVariable?, hthis, hsuper]

/-- Some part of a tree is a node for operators between two operands, which is lowered to this at
some level. -/
def Node.HasOperation (root : Node) (limit : Nat) (shape : ExprShape) : Prop :=
  ∃ (n : Node) (levels : Nat) (place : Span), n.IsPartOf root ∧
    (Scope.level limit levels place).Operates n shape

/-- Every operator in a part takes its operands, given a limit and a tree. -/
def Invariant.assignments (limit : Nat) (root : Node) : Invariant :=
  .everywhere (fun s => ∃ levels place, s = .level limit levels place) (fun n => n.IsPartOf root)
    (fun hn hc => hn.child hc)
    (fun _ shape => ∀ left op right, shape = .binary left op right → op.isAssignment = true →
      left.isAssignable = true ∨ root.HasOperation limit shape)
    (fun hrule _ => hrule)
    (by
      intro _ shape hcommon left op right hshape
      rw [hshape] at hcommon
      cases hcommon)
    (by
      intro _ elements wrapped _ left op right hshape
      cases hshape)
    (by
      intro _ left right op htakes left' op' right' hshape hop
      cases hshape
      rcases htakes hop with hassignable | ⟨s, n, ⟨levels, place, rfl⟩, hn, hoperates⟩
      · exact .inl hassignable
      · exact .inr ⟨n, levels, place, hn, hoperates⟩)

variable {options : LowerOptions} {file : ParsedFile} {script : CompilationUnit}

/-- **Only variables are assigned to, unless an operator between two operands assigns.** -/
theorem lower_assigns (h : lower options file = .ok script) {slot : Slot} {e left right : Expr}
    {op : BinaryOp} (he : script.Contains (.expr slot e)) (hshape : e.shape = .binary left op right)
    (hop : op.isAssignment = true) :
    (left.parenthesized = false ∧
      ∃ v, left.shape = .name v ∧ v.name ≠ "this" ∧ v.name ≠ "super") ∨
      file.root.HasOperation options.maxDepth e.shape := by
  let assignments := Invariant.assignments options.maxDepth file.root
  have hscope : ∀ levels place, assignments.scope (.level options.maxDepth levels place) :=
    fun levels place => ⟨levels, place, rfl⟩
  have hroot : assignments.node file.root := Relation.ReflTransGen.refl
  have hholds := Invariant.holds_of_lower hscope hroot h he
  have hrule : left.isAssignable = true ∨ file.root.HasOperation options.maxDepth e.shape :=
    (hholds _ .refl).2 left op right hshape hop
  rcases hrule with hassignable | hoperation
  · exact .inl (Expr.isAssignable_iff.1 hassignable)
  · exact .inr hoperation

/-! ## An assignment and an operator -/

/-- Whether an expression is an operator that assigns to what passes a test. -/
def Expr.assignsTo (test : Expr → Bool) (e : Expr) : Bool :=
  match e.shape with
  | .binary left op _ => op.isAssignment && test left
  | _ => false

theorem exists_of_assignsTo {test : Expr → Bool}
    (h : script.statements.any (fun x => x.expression?.any (Expr.assignsTo test)) = true) :
    ∃ e left op right, script.Contains (.expr .statement e) ∧ e.shape = .binary left op right ∧
      op.isAssignment = true ∧ test left = true := by
  obtain ⟨x, hx, h⟩ := List.any_eq_true.1 h
  obtain ⟨e, he, h⟩ := (Option.any_eq_true _ _).1 h
  rw [Expr.assignsTo] at h
  split at h
  · next left op right hshape =>
    obtain ⟨hop, htest⟩ := Bool.and_eq_true_iff.1 h
    exact ⟨e, left, op, right, script.contains_expression? hx he, hshape, hop, htest⟩
  · cases h

open Production

/-- The assignment `a += 1` has the variable in front of it. -/
theorem lower_assigns_variable :
    let file : ParsedFile :=
      { root := (unit [expressionStatement (assignment (identifier "a") "+=" (integer "1"))]) }
    ∃ script e left op right, lower {} file = .ok script ∧
      script.Contains (.expr .statement e) ∧ e.shape = .binary left op right ∧
      op.isAssignment = true ∧
      ((left.parenthesized = false ∧
          ∃ v, left.shape = .name v ∧ v.name ≠ "this" ∧ v.name ≠ "super") ∨
        file.root.HasOperation ({} : LowerOptions).maxDepth e.shape) := by
  intro file
  obtain ⟨script, hscript, htest⟩ := Lowered.exists_of_any (x := lower {} file)
    (p := fun script => script.statements.any fun x =>
      x.expression?.any (Expr.assignsTo fun _ => true)) (by decide +kernel)
  obtain ⟨e, left, op, right, he, hshape, hop, _⟩ := exists_of_assignsTo htest
  exact ⟨script, e, left, op, right, hscript, he, hshape, hop,
    lower_assigns hscript he hshape hop⟩

/-- The operator `=` between `1` and `2` is lowered to an assignment to a constant. -/
theorem lower_assigns_to_constant :
    let root := unit [expressionStatement (binary (integer "1") "=" (integer "2"))]
    ∃ script e left op right, lower {} ⟨root.layOut.root, []⟩ = .ok script ∧
      script.Contains (.expr .statement e) ∧ e.shape = .binary left op right ∧
      op.isAssignment = true ∧ ¬∃ v, left.shape = .name v := by
  intro root
  obtain ⟨script, hscript, htest⟩ := Lowered.exists_of_any (x := lower {} ⟨root.layOut.root, []⟩)
    (p := fun script => script.statements.any fun x =>
      x.expression?.any (Expr.assignsTo fun left => left.asVariable?.isNone)) (by decide +kernel)
  obtain ⟨e, left, op, right, he, hshape, hop, hnone⟩ := exists_of_assignsTo htest
  refine ⟨script, e, left, op, right, hscript, he, hshape, hop, ?_⟩
  rintro ⟨v, hname⟩
  rw [Expr.asVariable?, hname] at hnone
  cases hnone

end GroovyLowering
