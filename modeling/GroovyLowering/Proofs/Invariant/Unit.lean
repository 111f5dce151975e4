import GroovyLowering.Lower.Unit
import GroovyLowering.Proofs.Invariant.Statement

/-!
# Files keep an invariant

The scopes of all levels keep every invariant, by induction on the levels that are left: each
level takes one from the budget, and an expression gives it back.  So everything that is lowered
outside of all statements and expressions is made of parts with the property, within the limit of
nesting and the arrays in the file (`Invariant.holds_of_lower`).
-/

namespace GroovyLowering

open Lowered (exists_of_bind exists_of_mem_mapM)

theorem Scope.maintains_level {I : Invariant} {limit : Nat}
    (hscope : ∀ left place, I.scope (level limit left place)) (left : Nat) (place : Span) :
    (level limit left place).Maintains I left := by
  induction left generalizing place with
  | zero =>
    constructor
    · exact hscope 0 place
    · intro k n e hn he
      cases he
    · intro k n x hn hx
      cases hx
  | succ left ih =>
    constructor
    · exact hscope (left + 1) place
    · intro k n e hn he
      obtain ⟨j, rfl, hcovers⟩ := hn.level
      exact (ih _).expression hcovers he
    · intro k n x hn hx
      obtain ⟨j, rfl, hcovers⟩ := hn.level
      exact I.mono ((ih _).statement hcovers hx) (Nat.le_succ j)

namespace Invariant

/-- An item of a file with the property, and the block that its method has. -/
structure SoundItem (I : Invariant) (k : Nat) (item : TopLevel) : Prop where
  statements : ∀ x ∈ item.toStatements, I.SoundStmt k x
  method : ∀ m ∈ item.method?, I.All k m.parts ∧ ∀ body ∈ m.body, body.IsBlock

/-- A file with the property. -/
structure SoundUnit (I : Invariant) (k : Nat) (unit : CompilationUnit) : Prop where
  parts : I.All k unit.parts
  bodies : ∀ m ∈ unit.methods, ∀ body ∈ m.body, body.IsBlock

theorem soundStmt_blankReturn (I : Invariant) (k : Nat) (options : LowerOptions) (n : Node) :
    ∀ x ∈ blankReturn options n, I.SoundStmt k x := by
  rw [blankReturn]
  split
  · have hnull : I.Sound k (.null n.span) := sound_constant I k _ _
    exact List.forall_mem_singleton.2 (soundStmt ⟨trivial, all_singleton.2 hnull⟩)
  · exact List.forall_mem_nil _

end Invariant

namespace Scope.Maintains

open Invariant

variable {I : Invariant} {s : Scope} {d k : Nat} {n : Node} {options : LowerOptions}

theorem package? (hs : s.Maintains I d) (hn : I.Covers d k n) {o : Option PackageDecl}
    (ho : s.package? n = .ok o) : ∀ p ∈ o, I.SoundAnnotations k p.annotations := by
  rw [Scope.package?] at ho
  split at ho
  · next child hchild =>
    obtain ⟨p, hp, ho⟩ := exists_of_bind ho
    obtain ⟨name, _, hp⟩ := exists_of_node hp
    obtain ⟨as, has, hp⟩ := exists_of_bind hp
    cases hp
    cases ho
    intro p hp
    cases hp
    exact hs.annotations (hn.child? hchild) has
  · cases ho
    intro p hp
    cases hp

theorem importDecl (hs : s.Maintains I d) (hn : I.Covers d k n) {i : ImportDecl}
    (hi : s.importDecl n = .ok i) : I.SoundAnnotations k i.annotations := by
  obtain ⟨name, _, hi⟩ := exists_of_node hi
  obtain ⟨as, has, hi⟩ := exists_of_bind hi
  obtain ⟨⟨kind, className, member, localName⟩, _, hi⟩ := exists_of_bind hi
  cases hi
  exact hs.annotations hn has

theorem topLevel (hs : s.Maintains I d) (hn : I.Covers d k n) {item : TopLevel}
    (h : s.topLevel options n = .ok item) : I.SoundItem k item := by
  rw [Scope.topLevel] at h
  split at h
  · split at h
    · obtain ⟨m, hm, h⟩ := exists_of_bind h
      cases h
      constructor
      · exact List.forall_mem_nil _
      · intro m' hm'
        cases hm'
        exact hs.method hn hm
    · cases h
  · obtain ⟨xs, hxs, h⟩ := exists_of_bind h
    cases h
    constructor
    · exact hs.blockStatement hn hxs
    · intro m hm
      cases hm

end Scope.Maintains

namespace Invariant

variable {I : Invariant} {options : LowerOptions} {unit : CompilationUnit}

/-- A file is made of its package, its imports and its items. -/
theorem soundUnit_of_lowerUnit
    (hscope : ∀ left place, I.scope (.level options.maxDepth left place)) {n : Node} {k : Nat}
    (hn : I.Covers options.maxDepth k n) (h : lowerUnit options n = .ok unit) :
    I.SoundUnit k unit := by
  have hs : (Scope.outermost options.maxDepth).Maintains I options.maxDepth :=
    Scope.maintains_level hscope _ _
  rw [lowerUnit] at h
  split at h
  · obtain ⟨package, hpackage, h⟩ := exists_of_bind h
    obtain ⟨imports, himports, h⟩ := exists_of_bind h
    obtain ⟨items, hitems, h⟩ := exists_of_bind h
    cases h
    have hitem : ∀ item ∈ items, I.SoundItem k item := by
      intro item hitem
      obtain ⟨c, hc, hstep⟩ := exists_of_mem_mapM hitems hitem
      exact hs.topLevel (hn.child hc) hstep
    have hmethod : ∀ m ∈ items.filterMap TopLevel.method?,
        I.All k m.parts ∧ ∀ body ∈ m.body, body.IsBlock := by
      intro m hm
      obtain ⟨item, hmem, hm⟩ := List.mem_filterMap.1 hm
      exact (hitem item hmem).method m hm
    constructor
    · refine all_append.2 ⟨all_append.2 ⟨all_append.2 ⟨?_, ?_⟩, ?_⟩, ?_⟩
      · refine all_flatMap.2 ?_
        intro p hp
        exact all_flatMap.2 (hs.package? hn hpackage p (Option.mem_toList.1 hp))
      · refine all_flatMap.2 ?_
        intro i hi
        obtain ⟨c, hc, hstep⟩ := exists_of_mem_mapM himports hi
        exact all_flatMap.2 (hs.importDecl (hn.child hc) hstep)
      · refine all_map.2 ?_
        intro x hx
        rcases List.mem_append.1 hx with hx | hx
        · obtain ⟨item, hmem, hx⟩ := List.mem_flatMap.1 hx
          exact (hitem item hmem).statements x hx
        · exact soundStmt_blankReturn I k options n x hx
      · refine all_flatMap.2 ?_
        intro m hm
        exact (hmethod m hm).1
    · intro m hm
      exact (hmethod m hm).2
  · cases h

/-- Everything in a file that a lowering returns has the property, within the limit of nesting and
the arrays in the tree. -/
theorem holds_of_lower (hscope : ∀ left place, I.scope (.level options.maxDepth left place))
    {file : ParsedFile} (hroot : I.node file.root) (h : lower options file = .ok unit) {q : Part}
    (hq : unit.Contains q) :
    I.holds (options.maxDepth + file.root.arrayDepth) q := by
  rw [lower] at h
  split at h
  · cases h
  · obtain ⟨p, hp, hq⟩ := hq
    have hcovers : I.Covers options.maxDepth (options.maxDepth + file.root.arrayDepth)
        file.root := ⟨hroot, Nat.le_refl _⟩
    exact holds_of_inside ((soundUnit_of_lowerUnit hscope hcovers h).parts p hp) hq

end Invariant

end GroovyLowering
