import GroovyLowering.Lower.Scope
import Mathlib.Data.List.Forall2

/-!
# Lowering in steps

A lowering is a sequence of steps, and it succeeds when all of them do.  The equations here carry
out a step that is known to succeed (`Lowered.bind_of_ok`, `Scope.bind_node`, `Scope.bind_token`).
The inversions take the success of a whole apart into its steps (`Lowered.exists_of_bind`,
`Scope.exists_of_node`, `Scope.exists_of_token`), and those of failures find the step that failed
(`Lowered.error_of_bind`).

`Lowered.Ensures` is what a lowering promises of its result, if there is one.  It is put together
along the steps as well.
-/

namespace GroovyLowering

variable {α β : Type}

/-! ## Lists -/

theorem exists_forall₂ {R : α → β → Prop} {xs : List α} (h : ∀ x ∈ xs, ∃ y, R x y) :
    ∃ ys, List.Forall₂ R xs ys := by
  induction xs with
  | nil => exact ⟨[], .nil⟩
  | cons x xs ih =>
    obtain ⟨⟨y, hy⟩, hxs⟩ := List.forall_mem_cons.1 h
    obtain ⟨ys, hys⟩ := ih hxs
    exact ⟨y :: ys, .cons hy hys⟩

/-- Where not all elements of a list have a property, there is a first one that does not. -/
theorem forall_or_exists_first {P Q : α → Prop} {xs : List α} (h : ∀ x ∈ xs, P x ∨ Q x) :
    (∀ x ∈ xs, P x) ∨
      ∃ before x after, xs = before ++ x :: after ∧ (∀ y ∈ before, P y) ∧ Q x := by
  induction xs with
  | nil => exact .inl (List.forall_mem_nil _)
  | cons x xs ih =>
    obtain ⟨hx, hxs⟩ := List.forall_mem_cons.1 h
    rcases hx with hx | hx
    · rcases ih hxs with hall | ⟨before, y, after, rfl, hbefore, hy⟩
      · exact .inl (List.forall_mem_cons.2 ⟨hx, hall⟩)
      · exact .inr ⟨x :: before, y, after, rfl, List.forall_mem_cons.2 ⟨hx, hbefore⟩, hy⟩
    · exact .inr ⟨[], x, xs, rfl, List.forall_mem_nil _, hx⟩

/-! ## Succeeding steps -/

namespace Lowered

theorem bind_of_ok {x : Lowered α} {a : α} (h : x = .ok a) (f : α → Lowered β) :
    x >>= f = f a := by
  rw [h]
  rfl

theorem exists_of_bind {x : Lowered α} {f : α → Lowered β} {b : β} (h : x >>= f = .ok b) :
    ∃ a, x = .ok a ∧ f a = .ok b := by
  cases x with
  | ok a => exact ⟨a, rfl, h⟩
  | error e => cases h

theorem bind_eq_ok_iff {x : Lowered α} {f : α → Lowered β} {b : β} :
    x >>= f = .ok b ↔ ∃ a, x = .ok a ∧ f a = .ok b :=
  ⟨exists_of_bind, fun ⟨_, hx, hf⟩ => (bind_of_ok hx f).trans hf⟩

/-- A result that passes a test is there. -/
theorem exists_of_any {x : Lowered α} {p : α → Bool} (h : x.toOption.any p = true) :
    ∃ a, x = .ok a ∧ p a = true := by
  cases x with
  | ok a => exact ⟨a, rfl, h⟩
  | error e => cases h

/-- Where a list of steps succeeds, its results are those of the single steps. -/
theorem forall₂_of_mapM {f : α → Lowered β} {xs : List α} {ys : List β}
    (h : xs.mapM f = .ok ys) : List.Forall₂ (fun x y => f x = .ok y) xs ys := by
  induction xs generalizing ys with
  | nil =>
    cases h
    exact .nil
  | cons x xs ih =>
    rw [List.mapM_cons] at h
    obtain ⟨y, hy, h⟩ := exists_of_bind h
    obtain ⟨rest, hrest, h⟩ := exists_of_bind h
    cases h
    exact .cons hy (ih hrest)

theorem mapM_of_forall₂ {f : α → Lowered β} {xs : List α} {ys : List β}
    (h : List.Forall₂ (fun x y => f x = .ok y) xs ys) : xs.mapM f = .ok ys := by
  induction h with
  | nil => rfl
  | cons hx _ ih =>
    rw [List.mapM_cons, bind_of_ok hx, bind_of_ok ih]
    rfl

/-- A list of steps succeeds with results that correspond to it one by one. -/
theorem exists_mapM {R : α → β → Prop} {f : α → Lowered β} {xs : List α}
    (h : ∀ x ∈ xs, ∃ y, f x = .ok y ∧ R x y) :
    ∃ ys, xs.mapM f = .ok ys ∧ List.Forall₂ R xs ys := by
  obtain ⟨ys, hys⟩ := exists_forall₂ h
  exact ⟨ys, mapM_of_forall₂ (hys.imp fun _ _ hxy => hxy.1), hys.imp fun _ _ hxy => hxy.2⟩

/-- A list of steps succeeds when all of them do. -/
theorem exists_mapM_of_forall {f : α → Lowered β} {xs : List α}
    (h : ∀ x ∈ xs, ∃ y, f x = .ok y) : ∃ ys, xs.mapM f = .ok ys := by
  obtain ⟨ys, hys⟩ := exists_forall₂ h
  exact ⟨ys, mapM_of_forall₂ hys⟩

/-- Every result of a list of steps is the result of one of them. -/
theorem exists_of_mem_mapM {f : α → Lowered β} {xs : List α} {ys : List β}
    (h : xs.mapM f = .ok ys) {y : β} (hy : y ∈ ys) : ∃ x ∈ xs, f x = .ok y := by
  induction xs generalizing ys with
  | nil =>
    cases h
    cases hy
  | cons x xs ih =>
    rw [List.mapM_cons] at h
    obtain ⟨z, hz, h⟩ := exists_of_bind h
    obtain ⟨rest, hrest, h⟩ := exists_of_bind h
    cases h
    cases hy with
    | head => exact ⟨x, List.mem_cons_self, hz⟩
    | tail _ hy =>
      obtain ⟨x', hx', hstep⟩ := ih hrest hy
      exact ⟨x', List.mem_cons_of_mem _ hx', hstep⟩

/-- Every step of a list has its result among the results. -/
theorem exists_mem_of_mapM {f : α → Lowered β} {xs : List α} {ys : List β}
    (h : xs.mapM f = .ok ys) {x : α} (hx : x ∈ xs) : ∃ y ∈ ys, f x = .ok y := by
  induction xs generalizing ys with
  | nil => cases hx
  | cons x' xs ih =>
    rw [List.mapM_cons] at h
    obtain ⟨y, hy, h⟩ := exists_of_bind h
    obtain ⟨rest, hrest, h⟩ := exists_of_bind h
    cases h
    cases hx with
    | head => exact ⟨y, List.mem_cons_self, hy⟩
    | tail _ hx =>
      obtain ⟨y', hy', hstep⟩ := ih hrest hx
      exact ⟨y', List.mem_cons_of_mem _ hy', hstep⟩

/-! ## Failing steps -/

/-- Two steps fail in the first one or in the second one. -/
theorem error_of_bind {x : Lowered α} {f : α → Lowered β} {e : CompileError}
    (h : x >>= f = .error e) : x = .error e ∨ ∃ a, x = .ok a ∧ f a = .error e := by
  cases x with
  | error e' =>
    cases h
    exact .inl rfl
  | ok a => exact .inr ⟨a, rfl, h⟩

/-- A list of steps fails in one of them. -/
theorem error_of_mapM {f : α → Lowered β} {xs : List α} {e : CompileError}
    (h : xs.mapM f = .error e) : ∃ x ∈ xs, f x = .error e := by
  induction xs with
  | nil => cases h
  | cons x xs ih =>
    rw [List.mapM_cons] at h
    rcases error_of_bind h with hx | ⟨y, _, h⟩
    · exact ⟨x, List.mem_cons_self, hx⟩
    · rcases error_of_bind h with hxs | ⟨ys, _, h⟩
      · obtain ⟨x', hx', hstep⟩ := ih hxs
        exact ⟨x', List.mem_cons_of_mem _ hx', hstep⟩
      · cases h

theorem error_of_foldlM {f : β → α → Lowered β} {xs : List α} {b : β} {e : CompileError}
    (h : xs.foldlM f b = .error e) : ∃ x ∈ xs, ∃ b, f b x = .error e := by
  induction xs generalizing b with
  | nil => cases h
  | cons x xs ih =>
    rw [List.foldlM_cons] at h
    rcases error_of_bind h with hx | ⟨b', _, h⟩
    · exact ⟨x, List.mem_cons_self, b, hx⟩
    · obtain ⟨x', hx', b'', hstep⟩ := ih h
      exact ⟨x', List.mem_cons_of_mem _ hx', b'', hstep⟩

/-- A list of steps fails with the first one that fails. -/
theorem mapM_eq_error {f : α → Lowered β} {before after : List α} {x : α}
    {e : CompileError} (hbefore : ∀ y ∈ before, ∃ z, f y = .ok z) (hx : f x = .error e) :
    (before ++ x :: after).mapM f = .error e := by
  induction before with
  | nil =>
    rw [List.nil_append, List.mapM_cons, hx]
    rfl
  | cons y rest ih =>
    obtain ⟨⟨z, hz⟩, hrest⟩ := List.forall_mem_cons.1 hbefore
    rw [List.cons_append, List.mapM_cons, bind_of_ok hz, ih hrest]
    rfl

end Lowered

namespace Scope

variable {s : Scope} {n : Node} {role : Role}

theorem bind_node {c : Node} (h : n.node? role = some c) (f : Node → Lowered α) :
    s.node n role >>= f = f c := by
  rw [node, h]
  rfl

theorem bind_token {t : Token} (h : n.token? role = some t) (f : Token → Lowered α) :
    s.token n role >>= f = f t := by
  rw [token, h]
  rfl

theorem exists_of_node {f : Node → Lowered α} {a : α} (h : s.node n role >>= f = .ok a) :
    ∃ c, n.node? role = some c ∧ f c = .ok a := by
  rw [node] at h
  split at h
  · exact ⟨_, ‹_›, h⟩
  · cases h

theorem exists_of_token {f : Token → Lowered α} {a : α} (h : s.token n role >>= f = .ok a) :
    ∃ t, n.token? role = some t ∧ f t = .ok a := by
  rw [token] at h
  split at h
  · exact ⟨_, ‹_›, h⟩
  · cases h

/-- A node without children of a role has no subtrees of it. -/
theorem nodes_eq_nil_of_has (h : n.has role = false) : n.nodes role = [] := by
  rw [Node.has, List.any_eq_false] at h
  refine List.filterMap_eq_nil_iff.2 fun c hc => ?_
  obtain ⟨r, e⟩ := c
  have hr : r ≠ role := by simpa using h _ hc
  cases e <;> simp [Element.nodeIn?, hr]

end Scope

/-! ## What a lowering promises of its result -/

/-- Every result of a lowering has a property. -/
def Lowered.Ensures (x : Lowered α) (P : α → Prop) : Prop := ∀ a, x = .ok a → P a

namespace Lowered.Ensures

variable {P : α → Prop} {Q : β → Prop}

theorem ok {a : α} (h : P a) : Ensures (.ok a) P := by
  intro b hb
  cases hb
  exact h

theorem pure {a : α} (h : P a) : Ensures (Pure.pure a) P := ok h

theorem error {e : CompileError} : Ensures (.error e) P := by
  intro a ha
  cases ha

theorem refuse {s : Scope} {n : Node} {complaint : Complaint} :
    Ensures (s.refuse n complaint) P :=
  error

theorem mono {P' : α → Prop} {x : Lowered α} (h : Ensures x P) (hP : ∀ a, P a → P' a) :
    Ensures x P' :=
  fun a ha => hP a (h a ha)

theorem trivial {x : Lowered α} : Ensures x fun _ => True := fun _ _ => True.intro

theorem bind {x : Lowered α} {f : α → Lowered β} (hx : Ensures x P)
    (hf : ∀ a, P a → Ensures (f a) Q) : Ensures (x >>= f) Q := by
  intro b hb
  obtain ⟨a, ha, hb⟩ := Lowered.exists_of_bind hb
  exact hf a (hx a ha) b hb

/-- A step of whose result nothing is asked. -/
theorem skip {x : Lowered α} {f : α → Lowered β} (hf : ∀ a, Ensures (f a) Q) :
    Ensures (x >>= f) Q :=
  trivial.bind fun a _ => hf a

theorem node {s : Scope} {n : Node} {role : Role} {f : Node → Lowered α}
    (hf : ∀ c, n.node? role = some c → Ensures (f c) P) : Ensures (s.node n role >>= f) P := by
  intro a ha
  obtain ⟨c, hc, ha⟩ := Scope.exists_of_node ha
  exact hf c hc a ha

theorem token {s : Scope} {n : Node} {role : Role} {f : Token → Lowered α}
    (hf : ∀ t, n.token? role = some t → Ensures (f t) P) : Ensures (s.token n role >>= f) P := by
  intro a ha
  obtain ⟨t, ht, ha⟩ := Scope.exists_of_token ha
  exact hf t ht a ha

theorem mapM {xs : List β} {f : β → Lowered α} (hf : ∀ x ∈ xs, Ensures (f x) P) :
    Ensures (xs.mapM f) fun ys => ∀ y ∈ ys, P y := by
  induction xs with
  | nil => exact pure (List.forall_mem_nil _)
  | cons x xs ih =>
    rw [List.mapM_cons]
    refine (hf x List.mem_cons_self).bind fun y hy => ?_
    refine (ih fun x hx => hf x (List.mem_cons_of_mem _ hx)).bind fun ys hys => pure ?_
    exact List.forall_mem_cons.2 ⟨hy, hys⟩

theorem foldlM {xs : List β} {f : α → β → Lowered α}
    (hf : ∀ a, P a → ∀ x ∈ xs, Ensures (f a x) P) {a : α} (ha : P a) :
    Ensures (xs.foldlM f a) P := by
  induction xs generalizing a with
  | nil => exact pure ha
  | cons x xs ih =>
    rw [List.foldlM_cons]
    refine (hf a ha x List.mem_cons_self).bind fun b hb => ?_
    exact ih (fun a ha x hx => hf a ha x (List.mem_cons_of_mem _ hx)) hb

end Lowered.Ensures

end GroovyLowering
