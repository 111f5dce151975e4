import GroovyLowering.Builder.Basic
import GroovyLowering.Proofs.Equations
import GroovyLowering.Proofs.Step

/-!
# Steps that leave a builder as it was

`Building.Yields` says that a step gives a result, or a failure, and leaves the state that it found.
It is put together along the steps: a sequence of such steps is one again, and stops at the same
failure as the sequence of the results (`Yields.bind`).

A step that only reads is one at once.  What it reads is the enclosing span and nothing else of a
scope (`Scope.Reads`), so it may be compared with the scope of the lowering without a state.

`Walk.Follows` is the assumption under which a construct is built: what is inside it yields what a
scope gives.
-/

namespace GroovyLowering

variable {α β : Type}

/-- Two lists of steps are the same when their steps are. -/
theorem Lowered.mapM_congr {f g : α → Lowered β} {xs : List α} (h : ∀ x ∈ xs, f x = g x) :
    xs.mapM f = xs.mapM g := by
  induction xs with
  | nil => rfl
  | cons x xs ih =>
    rw [List.mapM_cons, List.mapM_cons, h x List.mem_cons_self,
      ih fun y hy => h y (List.mem_cons_of_mem _ hy)]

/-! ## What depends on the enclosing span only -/

/-- A lowering that takes nothing from a scope but its enclosing span. -/
def Scope.Reads (f : Scope → Lowered α) : Prop :=
  ∀ (place : Span) (expr expr' : Node → Lowered Expr) (stmt stmt' : Node → Lowered Stmt),
    f ⟨place, expr, stmt⟩ = f ⟨place, expr', stmt'⟩

namespace Scope

mutual

theorem typeRef_reads (n : Node) : Reads fun s => s.typeRef n := by
  intro place expr expr' stmt stmt'
  simp only [typeRef_eq]
  cases h : n.node? .classType with
  | some child =>
    have := Node.size_lt_of_node? h
    have hchild := classType_reads child place expr expr' stmt stmt'
    simp only [hchild]
  | none => rfl
termination_by n.size

theorem classType_reads (n : Node) : Reads fun s => s.classType n := by
  intro place expr expr' stmt stmt'
  simp only [classType_eq]
  cases h : n.node? .typeArguments with
  | some child =>
    have := Node.size_lt_of_node? h
    have hchild := typeArguments_reads child place expr expr' stmt stmt'
    simp only [hchild]
    rfl
  | none => rfl
termination_by n.size

theorem typeArguments_reads (n : Node) : Reads fun s => s.typeArguments n := by
  intro place expr expr' stmt stmt'
  simp only [typeArguments_eq]
  refine Lowered.mapM_congr fun child h => ?_
  have := Node.size_lt_of_mem_nodes h
  exact typeArgument_reads child place expr expr' stmt stmt'
termination_by n.size

theorem typeArgument_reads (n : Node) : Reads fun s => s.typeArgument n := by
  intro place expr expr' stmt stmt'
  simp only [typeArgument_eq, wildcardBound]
  cases h : n.node? .type with
  | some child =>
    have := Node.size_lt_of_node? h
    have hchild := typeRef_reads child place expr expr' stmt stmt'
    simp only [hchild]
    rfl
  | none => rfl
termination_by n.size

end

theorem typeArguments?_reads (n : Node) : Reads fun s => s.typeArguments? n := by
  intro place expr expr' stmt stmt'
  simp only [typeArguments?]
  cases n.node? .typeArguments with
  | some child => simp only [typeArguments_reads child place expr expr' stmt stmt']
  | none => rfl

theorem typeOr_reads (n : Node) (name : Token) : Reads fun s => s.typeOr n name := by
  intro place expr expr' stmt stmt'
  simp only [typeOr]
  cases n.node? .type with
  | some child => exact typeRef_reads child place expr expr' stmt stmt'
  | none => rfl

theorem returnType_reads (n : Node) (name : Token) : Reads fun s => s.returnType n name := by
  intro place expr expr' stmt stmt'
  simp only [returnType]
  cases n.node? .returnType with
  | some returns =>
    cases h : returns.node? .type with
    | some child =>
      simp only [h]
      exact typeRef_reads child place expr expr' stmt stmt'
    | none =>
      simp only [h]
      rfl
  | none => rfl

theorem createdType_reads (n : Node) : Reads fun s => s.createdType n := by
  intro place expr expr' stmt stmt'
  simp only [createdType]
  cases n.token? .primitive with
  | some t => rfl
  | none =>
    simp only [typeArguments?_reads n place expr expr' stmt stmt']
    rfl

theorem tupleName_reads (n : Node) (modifiers : ModifierSet) (initializer : Expr) (slot : TupleSlot)
    (pair : Node) : Reads fun s => s.tupleName n modifiers initializer slot pair := by
  intro place expr expr' stmt stmt'
  simp only [tupleName, typeOr_reads pair _ place expr expr' stmt stmt']
  rfl

end Scope

/-! ## Steps and their results -/

namespace Building

/-- A step gives a result or a failure, and leaves the builder as it was. -/
def Yields (x : Building α) (b : Builder) (r : Lowered α) : Prop := x b = (r, b)

variable {b : Builder}

/-- The second of two steps starts from the state that the first one leaves. -/
theorem bind_apply (x : Building α) (f : α → Building β) (b : Builder) :
    (x >>= f) b = ExceptT.bindCont f (x b).1 (x b).2 := rfl

theorem Yields.pure (a : α) : (Pure.pure a : Building α).Yields b (Pure.pure a) := rfl

theorem Yields.bind {x : Building α} {r : Lowered α} {f : α → Building β} {g : α → Lowered β}
    (hx : x.Yields b r) (hf : ∀ a, (f a).Yields b (g a)) : (x >>= f).Yields b (r >>= g) := by
  rw [Yields, bind_apply, hx]
  cases r with
  | ok a => exact hf a
  | error e => rfl

theorem Yields.mapM {xs : List α} {f : α → Building β} {g : α → Lowered β}
    (h : ∀ x ∈ xs, (f x).Yields b (g x)) : (xs.mapM f).Yields b (xs.mapM g) := by
  induction xs with
  | nil => exact .pure []
  | cons x xs ih =>
    rw [List.mapM_cons, List.mapM_cons]
    refine (h x List.mem_cons_self).bind fun y => ?_
    exact (ih fun z hz => h z (List.mem_cons_of_mem _ hz)).bind fun ys => .pure _

theorem Yields.foldlM {xs : List α} {f : β → α → Building β} {g : β → α → Lowered β}
    (h : ∀ a, ∀ x ∈ xs, (f a x).Yields b (g a x)) (a : β) :
    (xs.foldlM f a).Yields b (xs.foldlM g a) := by
  induction xs generalizing a with
  | nil => exact .pure a
  | cons x xs ih =>
    rw [List.foldlM_cons, List.foldlM_cons]
    refine (h a x List.mem_cons_self).bind fun c => ?_
    exact ih (fun c y hy => h c y (List.mem_cons_of_mem _ hy)) c

theorem Yields.ite {p : Prop} [Decidable p] {x y : Building α} {r t : Lowered α}
    (hx : x.Yields b r) (hy : y.Yields b t) :
    (if p then x else y).Yields b (if p then r else t) := by
  split
  · exact hx
  · exact hy

end Building

/-! ## Constructs -/

open Building

/-- What a builder does inside a construct yields what a scope gives. -/
structure Walk.Follows (w : Walk) (b : Builder) (s : Scope) : Prop where
  enclosing : s.enclosing = b.enclosing
  expr : ∀ n, (w.expr n).Yields b (s.expr n)
  stmt : ∀ n, (w.stmt n).Yields b (s.stmt n)

namespace Walk.Follows

variable {w : Walk} {b : Builder} {s : Scope}

theorem look (h : w.Follows b s) {f : Scope → Lowered α} (hf : Scope.Reads f) :
    (Building.look f).Yields b (f s) := by
  obtain ⟨place, expr, stmt⟩ := s
  obtain rfl : place = b.enclosing := h.enclosing
  exact congrArg (·, b) (hf b.enclosing _ expr _ stmt)

theorem refuse (h : w.Follows b s) (n : Node) (complaint : Complaint) :
    (Building.refuse n complaint : Building α).Yields b (s.refuse n complaint) :=
  h.look fun _ _ _ _ _ => rfl

theorem node (h : w.Follows b s) (n : Node) (role : Role) :
    (Building.node n role).Yields b (s.node n role) :=
  h.look fun _ _ _ _ _ => rfl

theorem token (h : w.Follows b s) (n : Node) (role : Role) :
    (Building.token n role).Yields b (s.token n role) :=
  h.look fun _ _ _ _ _ => rfl

/-- The span of a construct is the one that its scope gives. -/
theorem bind_spanOf (h : w.Follows b s) (n : Node) {f : Span → Building α} {r : Lowered α}
    (hf : (f (s.spanOf n)).Yields b r) : (Building.spanOf n >>= f).Yields b r := by
  have hspan : (Building.spanOf n).Yields b (.ok (s.spanOf n)) := h.look fun _ _ _ _ _ => rfl
  rw [Yields, bind_apply, hspan]
  exact hf

theorem expr? (h : w.Follows b s) (n : Node) (role : Role) :
    (w.expr? n role).Yields b (s.expr? n role) := by
  rw [Walk.expr?, Scope.expr?]
  cases n.node? role with
  | some child => exact (h.expr child).bind fun e => .pure _
  | none => exact .pure none

end Walk.Follows

end GroovyLowering
