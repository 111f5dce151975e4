import GroovyLowering.Proofs.Comparison.Unit
import GroovyLowering.Proofs.Spans.Occurring
import GroovyLowering.Tree.Construct.Declaration

/-!
# More permissive options

Two of the options forbid something: nesting below a depth, and methods in a script.  Each has an
error of its own, and no other error comes from them (`CompileError.blamesOptions`).

So two lowerings of one tree can be compared where the second one has more permissive options
(`Comparison.relaxed`).  Nothing of a place or of a text is dropped, and an error that blames the
options says nothing about the second lowering.  What remains is equality: a file, or an error that
does not blame the options, is the result under the more permissive options as well
(`lower_relaxed`).
-/

namespace GroovyLowering

/-! ## Options and the errors they cause -/

/-- The second options allow all that the first ones allow, and treat a blank script alike. -/
structure LowerOptions.Relaxes (strict relaxed : LowerOptions) : Prop where
  blankScriptReturn : strict.blankScriptReturn = relaxed.blankScriptReturn
  maxDepth : strict.maxDepth ≤ relaxed.maxDepth
  allowScriptMethods : strict.allowScriptMethods = true → relaxed.allowScriptMethods = true

/-- Whether an error says that the options forbid something. -/
def CompileError.blamesOptions : CompileError → Bool
  | .nestingTooDeep .. => true
  | .invalid .scriptMethod _ => true
  | .structural .. | .invalid .. | .relayed .. => false

/-! ## The comparison -/

/-- Two lowerings of one tree, the second one with more permissive options. -/
def Comparison.relaxed : Comparison where
  span := id
  quote := id
  tree := Eq
  excuses e := e.blamesOptions = true
  kind_eq h := congrArg Node.kind h
  nodes {n m} h role := by
    subst h
    exact List.forall₂_same.2 fun _ _ => rfl
  tokens {n m} h role _ := by
    subst h
    exact List.forall₂_same.2 fun _ _ => ⟨rfl, rfl, rfl⟩
  has_eq {n m} h role _ := by rw [h]
  spanOr_eq {n m} h a b hab := by
    subst h
    exact congrArg n.spanOr hab
  upTo_eq {a b c d} hab hcd := congrArg₂ Span.upTo hab hcd
  quote_eq {n m} h := congrArg Node.text h

namespace Comparison

theorem relaxed_error (e : CompileError) : Comparison.relaxed.error e = e := by
  cases e <;> rfl

/-- The comparison excuses what the first options forbid and the second ones may allow. -/
theorem relaxed_options {strict relaxed : LowerOptions} (h : strict.Relaxes relaxed) :
    Comparison.relaxed.Options strict relaxed where
  blankScriptReturn := h.blankScriptReturn
  maxDepth := Or.inr ⟨fun _ => rfl, h.maxDepth⟩
  allowScriptMethods := by
    cases hstrict : strict.allowScriptMethods with
    | false => exact Or.inr ⟨fun _ => rfl, rfl⟩
    | true => exact Or.inl (h.allowScriptMethods hstrict).symm

end Comparison

/-! ## Lowering -/

/-- **More permissive options change no result.**  A file that is returned is returned under more
permissive options too, with the same spans, and an error that does not blame the options is the
error there too. -/
theorem lower_relaxed {strict relaxed : LowerOptions} (h : strict.Relaxes relaxed)
    (file : ParsedFile) :
    (∀ unit, lower strict file = .ok unit → lower relaxed file = .ok unit) ∧
      ∀ e, lower strict file = .error e → e.blamesOptions = false →
        lower relaxed file = .error e := by
  have hagree := Comparison.Agree.lower (Comparison.relaxed_options h)
    (rfl : Comparison.relaxed.tree file.root file.root) file.diagnostics
  constructor
  · intro unit hunit
    obtain ⟨unit', hunit', heq⟩ := hagree.exists_ok hunit
    have : unit = unit' := by
      calc unit = unit.mapSpans id := unit.mapSpans_id.symm
        _ = unit'.mapSpans id := heq
        _ = unit' := unit'.mapSpans_id
    rw [this]
    exact hunit'
  · intro e he hblames
    have hstrict : lower strict ⟨file.root, file.diagnostics⟩ = .error e := he
    rw [hstrict] at hagree
    cases hrelaxed : lower relaxed ⟨file.root, file.diagnostics⟩ with
    | ok unit =>
      rw [hrelaxed] at hagree
      exact absurd hagree (Bool.eq_false_iff.1 hblames)
    | error e' =>
      rw [hrelaxed] at hagree
      rcases hagree with hexcused | herrors
      · exact absurd hexcused (Bool.eq_false_iff.1 hblames)
      · rw [Comparison.relaxed_error, Comparison.relaxed_error] at herrors
        rw [herrors]

/-- A sum that just fits is lowered as it is without the limit, and a sum with an operator that is
none is refused as it is without the limit. -/
theorem lower_relaxed_binary :
    let strict : LowerOptions := { maxDepth := 3, allowScriptMethods := false }
    let binary := fun operator => (⟨Production.unit [Production.expressionStatement
      (Production.binary (Production.identifier "a") operator (Production.identifier "b"))], []⟩ :
        ParsedFile)
    strict.Relaxes {} ∧
      (∃ unit, lower strict (binary "+") = .ok unit ∧ lower {} (binary "+") = .ok unit) ∧
      ∃ e, lower strict (binary "?") = .error e ∧ e.blamesOptions = false ∧
        lower {} (binary "?") = .error e := by
  intro strict binary
  have h : strict.Relaxes {} := ⟨rfl, by decide, fun _ => rfl⟩
  refine ⟨h, ?_, ?_⟩
  · have hsome : (lower strict (binary "+")).toOption.isSome = true := by decide +kernel
    cases hlower : lower strict (binary "+") with
    | ok unit => exact ⟨unit, rfl, (lower_relaxed h (binary "+")).1 unit hlower⟩
    | error e =>
      rw [hlower] at hsome
      cases hsome
  · have hrefused : ((lower strict (binary "?")).map fun _ => ()).mapError
        CompileError.blamesOptions = .error false := by decide +kernel
    cases hlower : lower strict (binary "?") with
    | ok unit =>
      rw [hlower] at hrefused
      cases hrefused
    | error e =>
      rw [hlower] at hrefused
      have hblames : e.blamesOptions = false := Except.error.inj hrefused
      exact ⟨e, rfl, hblames, (lower_relaxed h (binary "?")).2 e hlower hblames⟩

end GroovyLowering
