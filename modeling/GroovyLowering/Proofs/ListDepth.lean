import GroovyLowering.Proofs.Invariant.Unit
import GroovyLowering.Tree.Construct.Declaration
import GroovyLowering.Tree.Layout

/-!
# How deep lists nest

Every expression takes a level of nesting, so a list literal or a list of indices inside an element
of another one is a level further in.  The elements of an array of values are not: an initializer
and a value of an annotation is lowered by recursion on the tree, and each array becomes a list.

So lists nest no deeper in a file than the limit and the arrays of its tree together
(`NestedLists.length_le_limit`).  A tree without arrays keeps to the limit.
-/

namespace GroovyLowering

/-! ## Lists inside lists -/

/-- A number of lists, each of them inside an element of the one in front.  An expression is the
first one. -/
inductive ExprShape.NestsLists : ExprShape → Nat → Prop
  | one {elements : List Expr} {wrapped : Bool} : NestsLists (.list elements wrapped) 1
  | more {elements : List Expr} {wrapped : Bool} {x : Expr} {slot : Slot} {e : Expr} {n : Nat} :
      x ∈ elements → x.part.Inside (.expr slot e) → e.shape.NestsLists n →
      NestsLists (.list elements wrapped) (n + 1)

/-- Lists nest no deeper than the budget. -/
def Invariant.listDepth : Invariant :=
  .everywhere (fun _ => True) (fun _ => True) (fun _ _ => trivial)
    (fun k shape => ∀ n, shape.NestsLists n → n ≤ k)
    (fun h hle n hn => Nat.le_trans (h n hn) hle)
    (by
      intro k shape hcommon n hn
      cases hn <;> cases hcommon)
    (by
      intro k elements wrapped h n hn
      cases hn with
      | one => exact Nat.le_add_left 1 k
      | more hx hinside hrest => exact Nat.succ_le_succ (h _ hx _ hinside _ hrest))
    (by
      intro k left right op _ n hn
      cases hn)

/-- Lists of a file, each of them inside an element of the one in front. -/
structure CompilationUnit.NestedLists (unit : CompilationUnit) (chain : List Expr) : Prop where
  contained : ∀ e ∈ chain, ∃ slot, unit.Contains (.expr slot e)
  lists : ∀ e ∈ chain, ∃ elements wrapped, e.shape = .list elements wrapped
  nested : chain.IsChain fun a b => ∃ elements wrapped, a.shape = .list elements wrapped ∧
    ∃ x ∈ elements, ∃ slot, x.part.Inside (.expr slot b)

namespace CompilationUnit.NestedLists

variable {options : LowerOptions} {file : ParsedFile} {unit : CompilationUnit} {e : Expr}
  {chain : List Expr}

/-- The first of some lists nests as many of them as there are. -/
theorem nestsLists (h : unit.NestedLists (e :: chain)) :
    e.shape.NestsLists (chain.length + 1) := by
  induction chain generalizing e with
  | nil =>
    obtain ⟨elements, wrapped, hshape⟩ := h.lists e List.mem_cons_self
    rw [hshape]
    exact .one
  | cons b rest ih =>
    obtain ⟨hfirst, hnested⟩ := List.isChain_cons_cons.1 h.nested
    obtain ⟨elements, wrapped, hshape, x, hx, slot, hinside⟩ := hfirst
    have hrest : unit.NestedLists (b :: rest) := by
      constructor
      · intro y hy
        exact h.contained y (List.mem_cons_of_mem _ hy)
      · intro y hy
        exact h.lists y (List.mem_cons_of_mem _ hy)
      · exact hnested
    rw [hshape]
    exact .more hx hinside (ih hrest)

/-- **The limit bounds how deep lists nest, up to the arrays in the tree.** -/
theorem length_le_limit (hlower : lower options file = .ok unit) (h : unit.NestedLists chain) :
    chain.length ≤ options.maxDepth + file.root.arrayDepth := by
  cases chain with
  | nil => exact Nat.zero_le _
  | cons e rest =>
    obtain ⟨slot, hcontains⟩ := h.contained e List.mem_cons_self
    have hholds := Invariant.holds_of_lower (I := .listDepth) (fun _ _ => trivial) trivial hlower
      hcontains
    have hbound : ∀ n, e.shape.NestsLists n → n ≤ options.maxDepth + file.root.arrayDepth :=
      (hholds _ .refl).2
    exact hbound _ h.nestsLists

end CompilationUnit.NestedLists

/-! ## A list in a list, and an array in an array -/

/-- Whether an expression declares a name as a list of one empty list. -/
def Expr.declaresListInList (e : Expr) : Bool :=
  match e.shape with
  | .declaration value =>
    match value.initializer.shape with
    | .list [⟨.list [] _, _, _⟩] _ => true
    | _ => false
  | _ => false

namespace CompilationUnit.NestedLists

theorem exists_of_declaresListInList {script : CompilationUnit}
    (h : script.statements.any (fun x => x.expression?.any Expr.declaresListInList) = true) :
    ∃ outer inner, script.NestedLists [outer, inner] := by
  obtain ⟨x, hx, h⟩ := List.any_eq_true.1 h
  obtain ⟨e, he, h⟩ := (Option.any_eq_true _ _).1 h
  have hcontains := script.contains_expression? hx he
  unfold Expr.declaresListInList at h
  split at h
  · next value hvalue =>
    split at h
    · next wrapped' span parenthesized wrapped houter =>
      let inner : Expr := ⟨.list [] wrapped', span, parenthesized⟩
      have hinitializer : value.initializer.part ∈ (Part.expr .statement e).parts := by
        rw [Part.parts, hvalue]
        exact List.mem_cons_self
      have hinner : inner.part ∈ value.initializer.part.parts := by
        rw [Expr.part, Part.parts, houter]
        exact List.mem_cons_self
      obtain ⟨p, hp, hinside⟩ := hcontains
      have houterInside : p.Inside value.initializer.part := hinside.tail hinitializer
      refine ⟨value.initializer, inner, ?_, ?_, ?_⟩
      · refine List.forall_mem_cons.2 ⟨⟨_, p, hp, houterInside⟩, ?_⟩
        exact List.forall_mem_singleton.2 ⟨_, p, hp, houterInside.tail hinner⟩
      · refine List.forall_mem_cons.2 ⟨⟨_, _, houter⟩, ?_⟩
        exact List.forall_mem_singleton.2 ⟨_, _, rfl⟩
      · have hstep : ∃ elements wrapped, value.initializer.shape = .list elements wrapped ∧
            ∃ x ∈ elements, ∃ slot, x.part.Inside (.expr slot inner) :=
          ⟨_, _, houter, inner, List.mem_cons_self, .operand, .refl⟩
        exact List.isChain_cons_cons.2 ⟨hstep, .singleton _⟩
    · cases h
  · cases h

open Production

/-- The declaration `def x = [[]]` nests two lists, and its limit of 2 is reached. -/
theorem length_le_limit_literal :
    let initializer := initializerExpression (list [element (list [])])
    let root := Production.unit
      [localVariable [modifier "def"] none [declarator "x" (some initializer)]]
    ∃ script outer inner, lower { maxDepth := 2 } ⟨root, []⟩ = .ok script ∧
      script.NestedLists [outer, inner] ∧ [outer, inner].length ≤ 2 + root.arrayDepth ∧
      root.arrayDepth = 0 := by
  intro initializer root
  obtain ⟨script, hscript, htest⟩ :=
    Lowered.exists_of_any (x := lower { maxDepth := 2 } ⟨root, []⟩)
      (p := fun script => script.statements.any fun x =>
        x.expression?.any Expr.declaresListInList) (by decide +kernel)
  obtain ⟨outer, inner, hnested⟩ := exists_of_declaresListInList htest
  exact ⟨script, outer, inner, hscript, hnested, length_le_limit hscript hnested, by decide +kernel⟩

/-- The declaration `def x = {{}}` nests two lists within a limit of 1, and the one with
two list literals is refused there. -/
theorem lower_array_in_array :
    let declare := fun initializer => (Production.unit
      [localVariable [modifier "def"] none [declarator "x" (some initializer)]]).layOut.root
    let literals := initializerExpression (list [element (list [])])
    let arrays := initializerArray [initializerArray []]
    (lower { maxDepth := 1 } ⟨declare literals, []⟩).toOption.isNone = true ∧
      ∃ script outer inner, lower { maxDepth := 1 } ⟨declare arrays, []⟩ = .ok script ∧
        script.NestedLists [outer, inner] ∧ ¬[outer, inner].length ≤ 1 := by
  intro declare literals arrays
  refine ⟨by decide +kernel, ?_⟩
  obtain ⟨script, hscript, htest⟩ :=
    Lowered.exists_of_any (x := lower { maxDepth := 1 } ⟨declare arrays, []⟩)
      (p := fun script => script.statements.any fun x =>
        x.expression?.any Expr.declaresListInList) (by decide +kernel)
  obtain ⟨outer, inner, hnested⟩ := exists_of_declaresListInList htest
  exact ⟨script, outer, inner, hscript, hnested, by simp⟩

end CompilationUnit.NestedLists

end GroovyLowering
