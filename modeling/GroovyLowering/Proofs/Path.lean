import GroovyLowering.Proofs.Construct
import GroovyLowering.Proofs.Moved
import GroovyLowering.Proofs.Step
import GroovyLowering.Tree.Construct.Declaration

/-!
# Paths in paths

A path whose primary is a path itself has the elements of both, the inner ones first.  It is lowered
to what the one path with all the elements is lowered to (`Scope.nested_path`).

The inner path gives its result another span and is lowered one level further in.  The elements
behind it look at what they are applied to, but not at its span.  The level shows only where the
limit is reached: a nested path may then fail where the flat one does not.
-/

namespace GroovyLowering

namespace Scope

open Comparison

variable {p : Node} {xs ys : List Node}

/-- A path one level in: its primary, then its elements, then a span. -/
theorem exists_expr_path (limit left : Nat) (place : Span) (p : Node) (xs : List Node) :
    ∃ q r, (level limit (left + 1) place).expr (Production.path p xs) =
      (level limit left q).expr p >>= fun primary =>
        (level limit left q).pathElements primary xs >>= fun e => pure (e.withSpan r) := by
  refine ⟨(Production.path p xs).spanOr place, (Production.path p xs).span, ?_⟩
  have hkind : (Production.path p xs).kind = .path := by simp [Production.path]
  have hprimary : (Production.path p xs).node? .primary = some p := by
    simp [Production.path, Node.node?]
  have helements : (Production.path p xs).nodes .element = xs := by simp [Production.path]
  show (level limit left _).expression (Production.path p xs) = _
  rw [expression, hkind]
  show (level limit left _).path (Production.path p xs) = _
  rw [path, bind_node hprimary, helements]

/-- A path in a path, and the path with the elements of both. -/
theorem nested_path_of_eq (p : Node) (xs ys : List Node) (limit left : Nat)
    (place place' : Span) :
    let nested := Production.path (Production.path p xs) ys
    let flat := Production.path p (xs ++ ys)
    Lowered.TooDeep ((level limit left place).expr nested) ∨
      Lowered.eraseSpans ((level limit left place).expr nested) =
        Lowered.eraseSpans ((level limit left place').expr flat) := by
  intro nested flat
  cases left with
  | zero => exact Or.inl ⟨limit, _, rfl⟩
  | succ left =>
    obtain ⟨q, r, hnested⟩ := exists_expr_path limit left place (Production.path p xs) ys
    obtain ⟨q', r', hflat⟩ := exists_expr_path limit left place' p (xs ++ ys)
    rw [hnested, hflat]
    cases left with
    | zero => exact Or.inl ⟨limit, _, rfl⟩
    | succ left =>
      obtain ⟨q₁, r₁, hinner⟩ := exists_expr_path limit left q p xs
      have hinside : deeper.Scopes (.level limit left q₁) (.level limit (left + 1) q') :=
        Scopes.deeper left.le_succ q₁ q'
      have houtside : deeper.Scopes (.level limit (left + 1) q) (.level limit (left + 1) q') :=
        Scopes.deeper le_rfl q q'
      rw [hinner]
      simp only [bind_assoc, pure_bind, pathElements_append]
      refine Agree.tooDeep_or_eq ?_
      refine (hinside.expr p.moved_refl).bind fun a b hab => ?_
      refine (hinside.pathElements hab (Node.forall₂_moved_refl xs)).bind fun a b hab => ?_
      have hrestamped : (a.withSpan r₁).eraseSpans = b.eraseSpans :=
        (Expr.eraseSpans_withSpan a r₁).trans hab
      have hbehind := houtside.pathElements hrestamped (Node.forall₂_moved_refl ys)
      exact hbehind.bind fun a b hab => Agree.pure (withSpan_eq hab rfl)

/-- **A path in a path is the path with the elements of both.**  Unless the nested path nests too
deep, both are lowered to the same expression or refused with the same error, spans aside.  Where
the tokens of the two stand does not matter. -/
theorem nested_path {n m : Node} (hn : n.Moved (Production.path (Production.path p xs) ys))
    (hm : m.Moved (Production.path p (xs ++ ys))) (limit left : Nat) (place place' : Span) :
    Lowered.TooDeep ((level limit left place).expr n) ∨
      Lowered.eraseSpans ((level limit left place).expr n) =
        Lowered.eraseSpans ((level limit left place').expr m) := by
  have hnested := eraseSpans_expr_of_moved hn limit left place place
  have hflat := eraseSpans_expr_of_moved hm limit left place' place'
  rw [hnested, hflat]
  rcases nested_path_of_eq p xs ys limit left place place' with hdeep | hsame
  · exact Or.inl (hdeep.of_eraseSpans_eq hnested.symm)
  · exact Or.inr hsame

/-- The path `a.f(b) {}.c` may be cut between the call and the closure that belongs to it. -/
theorem nested_path_behind_call :
    let xs := [Production.dot "f", Production.call [Production.identifier "b"]]
    let ys := [Production.closureElement (Production.closure [] false []), Production.dot "c"]
    let nested := Production.path (Production.path (Production.identifier "a") xs) ys
    let flat := Production.path (Production.identifier "a") (xs ++ ys)
    ∃ e e', (Scope.outermost 512).expr nested.layOut.root = .ok e ∧
      (Scope.outermost 512).expr flat.layOut.root = .ok e' ∧ e.eraseSpans = e'.eraseSpans := by
  intro xs ys nested flat
  obtain ⟨e, he, -⟩ := Lowered.exists_of_any (x := (Scope.outermost 512).expr nested.layOut.root)
    (p := fun _ => true) (by decide +kernel)
  rcases nested_path nested.moved_layOut flat.moved_layOut 512 512 .fileStart .fileStart with
    ⟨limit, place, hdeep⟩ | hsame
  · cases he.symm.trans hdeep
  · obtain ⟨e', he', hsame⟩ := Lowered.exists_ok_of_eraseSpans_eq hsame he
    exact ⟨e, e', he, he', hsame⟩

end Scope

end GroovyLowering
