import GroovyLowering.Proofs.Invariant.Unit
import GroovyLowering.Tree.Construct.Declaration

/-!
# Files are well formed

That everything inside a part is well formed is an invariant of the lowering
(`Invariant.everywhere`).  So every file that a lowering returns is well formed
(`lower_wellFormed`).
-/

namespace GroovyLowering

theorem lowerUnit_wellFormed (options : LowerOptions) (n : Node) :
    Lowered.Ensures (lowerUnit options n) CompilationUnit.WellFormed := by
  intro unit h
  -- No rule is asked for besides being well formed.
  let everywhere : Invariant := .everywhere (fun _ => True) (fun _ => True) (fun _ _ => trivial)
    (fun _ _ => True) (fun _ _ => trivial) (fun _ => trivial) (fun _ => trivial) fun _ => trivial
  have hcovers : everywhere.Covers options.maxDepth (options.maxDepth + n.arrayDepth) n :=
    ⟨trivial, Nat.le_refl _⟩
  have hunit := Invariant.soundUnit_of_lowerUnit (fun _ _ => trivial) hcovers h
  constructor
  · rintro q ⟨p, hp, hq⟩
    exact (hunit.parts p hp q hq).1
  · exact hunit.bodies

/-- **What is lowered is well formed.**  Every part of a file that a lowering returns follows the
rules for the place it stands in and for what it is put together from. -/
theorem lower_wellFormed {options : LowerOptions} {file : ParsedFile} {unit : CompilationUnit}
    (h : lower options file = .ok unit) : unit.WellFormed := by
  rw [lower] at h
  split at h
  · cases h
  · exact lowerUnit_wellFormed options file.root unit h

/-- A loop that declares two variables in its header, with a call that is safe on a member taken of
every element, is lowered to a well-formed file. -/
theorem lower_wellFormed_loop :
    let declaration := Production.localVariable [] (some (Production.primitiveType "int"))
      [Production.declarator "i" none, Production.declarator "j" none]
    let call := Production.path (Production.identifier "a")
      [Production.member "*." "b", Production.call [Production.identifier "i"]]
    let loop := Production.forClassic (some (Production.forInitDeclaration declaration))
      (some (Production.identifier "i")) none
      (Production.ifStatement call (Production.block []) none)
    ∃ unit, lower {} ⟨Production.unit [loop], []⟩ = .ok unit ∧ unit.WellFormed := by
  intro declaration call loop
  have hsome : (lower {} ⟨Production.unit [loop], []⟩).toOption.isSome = true := by decide +kernel
  cases hlower : lower {} ⟨Production.unit [loop], []⟩ with
  | ok unit => exact ⟨unit, rfl, lower_wellFormed hlower⟩
  | error e =>
    rw [hlower] at hsome
    cases hsome

end GroovyLowering
