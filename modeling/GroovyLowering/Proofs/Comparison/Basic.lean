import GroovyLowering.Lower.Scope
import GroovyLowering.Proofs.Spans.Natural
import Mathlib.Data.List.Forall2

/-!
# Comparing two lowerings

Two lowerings are compared step by step.  A `Comparison` says what makes their inputs alike and
what is kept of their results:

* trees that are `tree`-alike answer every query by role alike, punctuation aside;
* `span` and `quote` say what is kept of a place and of the text that an error quotes;
* an error that is `excuses`-d in the first lowering says nothing about the second.

`Agree` is the statement about two results: both succeed with values that look the same, or both
fail with errors that look the same.  How a value looks is a function `k`, most often
`Expr.mapSpans C.span`, so that agreement of values is an equation.

The steps of a lowering are put together by `bind`, `mapM` and `foldlM`, and each of them keeps
agreement (`Agree.bind`, `Agree.mapM`, `Agree.foldlM`).  The modules beside this one go through the
lowering construct by construct.
-/

namespace GroovyLowering

/-- A way to compare two lowerings. -/
structure Comparison where
  /-- What is kept of a place. -/
  span : Span → Span
  /-- What is kept of the text that an error quotes. -/
  quote : String → String
  /-- Which trees say the same. -/
  tree : Node → Node → Prop
  /-- Which errors of the first lowering say nothing about the second. -/
  excuses : CompileError → Prop
  kind_eq : ∀ {n m : Node}, tree n m → n.kind = m.kind
  nodes : ∀ {n m : Node}, tree n m → ∀ role, List.Forall₂ tree (n.nodes role) (m.nodes role)
  tokens : ∀ {n m : Node}, tree n m → ∀ {role : Role}, role ≠ .punct →
    List.Forall₂ (fun t u => t.kind = u.kind ∧ t.text = u.text ∧ span t.span = span u.span)
      (n.tokens role) (m.tokens role)
  has_eq : ∀ {n m : Node}, tree n m → ∀ {role : Role}, role ≠ .punct → n.has role = m.has role
  spanOr_eq : ∀ {n m : Node}, tree n m → ∀ {a b : Span}, span a = span b →
    span (n.spanOr a) = span (m.spanOr b)
  upTo_eq : ∀ {a b c d : Span}, span a = span b → span c = span d →
    span (a.upTo c) = span (b.upTo d)
  quote_eq : ∀ {n m : Node}, tree n m → quote n.text = quote m.text

namespace Comparison

variable {C : Comparison} {α β γ δ : Type}

/-- What is kept of an error. -/
def error (C : Comparison) : CompileError → CompileError
  | .structural complaint text span => .structural complaint (C.quote text) (C.span span)
  | .invalid complaint span => .invalid complaint (C.span span)
  | .relayed message span => .relayed message (C.span span)
  | .nestingTooDeep limit span => .nestingTooDeep limit (C.span span)

/-- Tokens that say the same. -/
def SameToken (C : Comparison) (t u : Token) : Prop :=
  t.kind = u.kind ∧ t.text = u.text ∧ C.span t.span = C.span u.span

theorem SameToken.kind_eq {t u : Token} (h : C.SameToken t u) : t.kind = u.kind := h.1

theorem SameToken.text_eq {t u : Token} (h : C.SameToken t u) : t.text = u.text := h.2.1

theorem SameToken.span_eq {t u : Token} (h : C.SameToken t u) : C.span t.span = C.span u.span :=
  h.2.2

theorem span_eq {n m : Node} (h : C.tree n m) : C.span n.span = C.span m.span := C.spanOr_eq h rfl

/-- Lists that correspond one by one look the same through a view that the correspondence keeps. -/
theorem map_eq_of_forall₂ {R : α → α → Prop} {k : α → γ} {xs ys : List α}
    (h : List.Forall₂ R xs ys) (hk : ∀ x y, R x y → k x = k y) : xs.map k = ys.map k := by
  induction h with
  | nil => rfl
  | cons hxy _ ih => rw [List.map_cons, List.map_cons, hk _ _ hxy, ih]

/-- Lists with the same image are both empty, or both have a head and a tail with the same
image. -/
theorem map_eq_map_cases {k : α → γ} {xs ys : List α} (h : xs.map k = ys.map k) :
    (xs = [] ∧ ys = []) ∨ ∃ x xs' y ys', xs = x :: xs' ∧ ys = y :: ys' ∧ k x = k y ∧
      xs'.map k = ys'.map k := by
  cases xs with
  | nil => exact Or.inl ⟨rfl, List.map_eq_nil_iff.1 h.symm⟩
  | cons x xs =>
    cases ys with
    | nil => cases h
    | cons y ys =>
      obtain ⟨hxy, hrest⟩ := List.cons.inj h
      exact Or.inr ⟨x, xs, y, ys, rfl, rfl, hxy, hrest⟩

/-! ## Agreement of two results -/

/-- Two results agree, as far as a view of their values and the comparison go. -/
def Agree (C : Comparison) (k : α → γ) : Lowered α → Lowered α → Prop
  | .ok a, .ok b => k a = k b
  | .ok _, .error _ => False
  | .error e, .ok _ => C.excuses e
  | .error e, .error e' => C.excuses e ∨ C.error e = C.error e'

namespace Agree

variable {k : α → γ} {l : β → δ}

theorem ok {a b : α} (h : k a = k b) : C.Agree k (.ok a) (.ok b) := h

theorem pure {a b : α} (h : k a = k b) : C.Agree k (Pure.pure a) (Pure.pure b) := h

theorem error {e e' : CompileError} (h : C.error e = C.error e') :
    C.Agree k (.error e) (.error e') :=
  Or.inr h

/-- An excused error agrees with everything. -/
theorem excused {e : CompileError} (h : C.excuses e) (y : Lowered α) :
    C.Agree k (.error e) y := by
  cases y with
  | ok b => exact h
  | error e' => exact Or.inl h

theorem bind {x y : Lowered α} {f g : α → Lowered β} (hxy : C.Agree k x y)
    (hfg : ∀ a b, k a = k b → C.Agree l (f a) (g b)) : C.Agree l (x >>= f) (y >>= g) := by
  cases x with
  | error e =>
    cases y with
    | error e' => exact hxy
    | ok b => exact excused hxy _
  | ok a =>
    cases y with
    | error e' => exact hxy.elim
    | ok b => exact hfg a b hxy

theorem mapM {ξ : Type} {R : ξ → ξ → Prop} {f g : ξ → Lowered α} {xs ys : List ξ}
    (hxs : List.Forall₂ R xs ys) (hfg : ∀ x y, R x y → C.Agree k (f x) (g y)) :
    C.Agree (List.map k) (xs.mapM f) (ys.mapM g) := by
  induction hxs with
  | nil => exact pure rfl
  | cons hxy _ ih =>
    rw [List.mapM_cons, List.mapM_cons]
    refine (hfg _ _ hxy).bind fun a b hab => ih.bind fun as bs habs => ?_
    exact pure (by rw [List.map_cons, List.map_cons, hab, habs])

theorem foldlM {ξ : Type} {R : ξ → ξ → Prop} {f g : α → ξ → Lowered α} {xs ys : List ξ}
    (hxs : List.Forall₂ R xs ys)
    (hfg : ∀ a b x y, k a = k b → R x y → C.Agree k (f a x) (g b y)) {a b : α}
    (hab : k a = k b) : C.Agree k (xs.foldlM f a) (ys.foldlM g b) := by
  induction hxs generalizing a b with
  | nil => exact pure hab
  | cons hxy _ ih =>
    rw [List.foldlM_cons, List.foldlM_cons]
    exact (hfg a b _ _ hab hxy).bind fun a b hab => ih hab

/-- What agrees with a success is a success, unless the comparison excuses a failure. -/
theorem exists_ok {x y : Lowered α} {a : α} (h : C.Agree k x y) (hx : x = .ok a) :
    ∃ b, y = .ok b ∧ k a = k b := by
  subst hx
  cases y with
  | ok b => exact ⟨b, rfl, h⟩
  | error e => exact h.elim

end Agree

end Comparison

end GroovyLowering
