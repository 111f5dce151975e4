import GroovyLowering.Proofs.Layout.Order
import GroovyLowering.Proofs.Origin.Unit
import GroovyLowering.Tree.Construct.Declaration
import GroovyLowering.Tree.Construct.Statement

/-!
# Results lie within their source

Every span of a lowered file is a region of the source, within the span of the file.  This holds of
every tree that is laid out, since its first token stands at the start of the file.  So even a node
without tokens, which has no place but the start of the file, has one within it (`Origin.file`).

A statement or a method at the top level has all its spans within its own, if all nodes of it have
tokens (`Origin.item`).  The body of a closure or of the group of a switch is a statement list and
may be empty, because the construct gives it a place.  The blocks of methods and of try statements
are written in braces.  A statement list is taken for such a block as well, and an empty one then
stands at the start of the file, outside of the statement (`topLevel_outside_try`).

Both halves are in `lower_spans_within`.
-/

namespace GroovyLowering

variable {n m c : Node} {role : Role}

/-! ## The nodes below a node -/

mutual

/-- The nodes below a node, each with its role. -/
def Node.descendants : Node → List (Role × Node)
  | ⟨_, children⟩ => descendantsIn children

/-- A child with the nodes below it. -/
def Element.descendants (role : Role) : Element → List (Role × Node)
  | .node n => (role, n) :: n.descendants
  | .token _ => []

/-- The nodes of a list of children with the nodes below them. -/
def descendantsIn : List (Role × Element) → List (Role × Node)
  | [] => []
  | (role, e) :: rest => e.descendants role ++ descendantsIn rest

end

namespace Node

theorem descendants_subset_descendantsIn {children : List (Role × Element)} {e : Element}
    (h : (role, e) ∈ children) : e.descendants role ⊆ descendantsIn children := by
  induction children with
  | nil => cases h
  | cons child rest ih =>
    obtain ⟨r, e'⟩ := child
    rcases List.mem_cons.1 h with heq | hrest
    · cases heq
      exact List.subset_append_left _ _
    · exact List.Subset.trans (ih hrest) (List.subset_append_right _ _)

theorem descendants_subset_of_mem_children (h : (role, Element.node c) ∈ n.children) :
    (role, c) :: c.descendants ⊆ n.descendants := by
  obtain ⟨kind, children⟩ := n
  have hsubset := descendants_subset_descendantsIn h
  rw [Element.descendants] at hsubset
  exact hsubset

theorem IsPartOf.descendants_subset (h : n.IsPartOf m) : n.descendants ⊆ m.descendants := by
  induction h with
  | refl => exact List.Subset.refl _
  | tail _ hchild ih =>
    obtain ⟨role, hmem⟩ := hchild
    have hsubset := List.subset_of_cons_subset (descendants_subset_of_mem_children hmem)
    exact List.Subset.trans ih hsubset

/-- A child of a part is a descendant of the whole. -/
theorem IsPartOf.mem_descendants (h : n.IsPartOf m) (hc : (role, Element.node c) ∈ n.children) :
    (role, c) ∈ m.descendants :=
  h.descendants_subset (descendants_subset_of_mem_children hc List.mem_cons_self)

theorem IsPartOf.mem_parts (h : n.IsPartOf m) : n ∈ m :: m.descendants.map Prod.snd := by
  rcases h.cases_head with rfl | ⟨parent, ⟨role, hmem⟩, hparent⟩
  · exact List.mem_cons_self
  · have hdescendant := IsPartOf.mem_descendants hparent hmem
    exact List.mem_cons_of_mem _ (List.mem_map_of_mem hdescendant)

end Node

/-! ## Nodes with tokens -/

namespace Node

/-- All nodes have tokens, but for statement lists that are bodies. -/
def IsFilled (n : Node) : Prop :=
  n.allTokens ≠ [] ∧ ∀ part ∈ n.descendants, part.2.allTokens = [] →
    part.1 = .body ∧ part.2.kind = .blockStatements

/-- The bodies that are written in braces: of a method, of a try statement and of its clauses. -/
def blocks (n : Node) : List Node :=
  match n.kind with
  | .methodDeclaration => n.nodes .body
  | .tryStatement =>
    n.nodes .body ++ (n.nodes .catchClause ++ n.nodes .finallyClause).flatMap fun d => d.nodes .body
  | _ => []

/-- All bodies that are written in braces have tokens. -/
def BlocksFilled (n : Node) : Prop :=
  ∀ part ∈ n :: n.descendants.map Prod.snd, ∀ block ∈ part.blocks, block.allTokens ≠ []

instance (n : Node) : Decidable n.IsFilled :=
  inferInstanceAs (Decidable (n.allTokens ≠ [] ∧ ∀ part ∈ n.descendants, part.2.allTokens = [] →
    part.1 = .body ∧ part.2.kind = .blockStatements))

instance (n : Node) : Decidable n.BlocksFilled :=
  inferInstanceAs (Decidable (∀ part ∈ n :: n.descendants.map Prod.snd,
    ∀ block ∈ part.blocks, block.allTokens ≠ []))

theorem IsFilled.child (h : m.IsFilled) (hn : n.IsPartOf m) (hc : c ∈ n.nodes role)
    (hrole : role.isBody = false) : c.allTokens ≠ [] := by
  intro hempty
  obtain ⟨rfl, _⟩ := h.2 _ (hn.mem_descendants (mem_children_of_mem_nodes hc)) hempty
  cases hrole

/-- A body without tokens is a statement list without statements. -/
theorem IsFilled.body (h : m.IsFilled) (hn : n.IsPartOf m) (hc : c ∈ n.nodes .body)
    (hempty : c.allTokens = []) : c.IsHollow := by
  refine ⟨(h.2 _ (hn.mem_descendants (mem_children_of_mem_nodes hc)) hempty).2, hempty, ?_⟩
  refine List.eq_nil_iff_forall_not_mem.2 fun d hd => ?_
  refine h.child (hn.child hc) hd rfl ?_
  have hsublist := (isChildOf_of_mem_nodes hd).sublist
  rw [hempty] at hsublist
  exact List.sublist_nil.1 hsublist

end Node

/-! ## Two origins -/

section Origin

variable {d : Node} {t : Token}

theorem Node.IsPartOf.declarator_within (hm : Token.InOrder m.allTokens) (h : n.IsPartOf m)
    (hd : d ∈ n.nodes .declarator) (ht : d.token? .name = some t) :
    (d.span.withStartOf n.span).Within m.span := by
  have hne := List.ne_nil_of_mem (mem_allTokens_of_mem_tokens (List.mem_of_head? ht))
  exact withStartOf_within hm h.sublist (isChildOf_of_mem_nodes hd).sublist hne

/-- All nodes of a file are looked at, and spans are good within its own. -/
def Origin.file (root : Node) : Origin where
  node n := n.IsPartOf root.layOut.root
  place p := p.Within root.layOut.root.span
  good p := p.Within root.layOut.root.span
  place_fileStart := root.fileStart_within_layOut
  place_spanOr h := Node.spanOr_within_of_within root.inOrder_layOut h.sublist
  good_spanOr h := Node.spanOr_within_of_within root.inOrder_layOut h.sublist
  good_token := Node.IsPartOf.token_within root.inOrder_layOut
  good_declarator := Node.IsPartOf.declarator_within root.inOrder_layOut
  child h hc _ := h.child hc
  body h hc := Or.inl (h.child hc)
  ownBody h _ hc := h.child hc
  clauseBody h _ hd hc := by
    rcases hd with hd | hd
    · exact (h.child hd).child hc
    · exact (h.child hd).child hc

/-- The nodes with tokens below a node are looked at, and spans are good within its own. -/
def Origin.item (m : Node) (horder : Token.InOrder m.allTokens) (hfilled : m.IsFilled)
    (hblocks : m.BlocksFilled) : Origin where
  node n := n.IsPartOf m ∧ n.allTokens ≠ []
  place _ := True
  good p := p.Within m.span
  place_fileStart := trivial
  place_spanOr _ _ := trivial
  good_spanOr h _ := Node.spanOr_within horder h.1.sublist h.2
  good_token h := h.1.token_within horder
  good_declarator h := h.1.declarator_within horder
  child h hc hrole := ⟨h.1.child hc, hfilled.child h.1 hc hrole⟩
  body {n c} h hc := by
    by_cases hempty : c.allTokens = []
    · exact Or.inr (hfilled.body h.1 hc hempty)
    · exact Or.inl ⟨h.1.child hc, hempty⟩
  ownBody {n c} h hkind hc := by
    refine ⟨h.1.child hc, hblocks n h.1.mem_parts c ?_⟩
    rcases hkind with hkind | hkind
    · rw [Node.blocks, hkind]
      exact List.mem_append_left _ hc
    · rw [Node.blocks, hkind]
      exact hc
  clauseBody {n d c} h hkind hd hc := by
    have hd' : d ∈ n.nodes .catchClause ++ n.nodes .finallyClause := List.mem_append.2 hd
    refine ⟨?_, hblocks n h.1.mem_parts c ?_⟩
    · rcases hd with hd | hd
      · exact (h.1.child hd).child hc
      · exact (h.1.child hd).child hc
    · rw [Node.blocks, hkind]
      exact List.mem_append_right _ (List.mem_flatMap.2 ⟨d, hd', hc⟩)

end Origin

/-! ## Files and their parts -/

/-- **Every span of a lowered file is a region of its source.**  It ends where it starts or behind,
and lies within the file.  Every statement and every method at the top level has its spans within
its own, if all nodes of it have tokens.  Statement lists that are bodies need none, but the bodies
that are written in braces do. -/
theorem lower_spans_within {options : LowerOptions} {root : Node}
    {diagnostics : List ParserDiagnostic} {unit : CompilationUnit}
    (h : lower options ⟨root.layOut.root, diagnostics⟩ = .ok unit) :
    (∀ p ∈ unit.spans, p.Within unit.span) ∧
      ∃ items : List TopLevel,
        unit.statements =
            items.flatMap TopLevel.toStatements ++ blankReturn options root.layOut.root ∧
          unit.methods = items.filterMap TopLevel.method? ∧
          List.Forall₂
            (fun m item => (Scope.outermost options.maxDepth).topLevel options m = .ok item ∧
              (m.IsFilled → m.BlocksFilled → ∀ p ∈ item.spans, p.Within m.span))
            (root.layOut.root.nodes .statement) items := by
  have hunit : lowerUnit options root.layOut.root = .ok unit := by
    rw [lower] at h
    split at h
    · cases h
    · exact h
  obtain ⟨items, hstatements, hmethods, hspan, hitems⟩ := Lowered.exists_of_lowerUnit hunit
  refine ⟨?_, items, hstatements, hmethods, ?_⟩
  · rw [hspan]
    exact (Origin.file root).good_of_lowerUnit Relation.ReflTransGen.refl hunit
  · have horder : ∀ m ∈ root.layOut.root.nodes .statement, Token.InOrder m.allTokens := fun m hm =>
      root.inOrder_layOut.sublist (Node.isChildOf_of_mem_nodes hm).sublist
    refine ((List.forall₂_and_left _ _).2 ⟨horder, hitems⟩).imp fun m item hitem => ⟨hitem.2, ?_⟩
    intro hfilled hblocks
    exact (Origin.item m hitem.1 hfilled hblocks).good_of_topLevel
      ⟨Relation.ReflTransGen.refl, hfilled.1⟩ hitem.2

/-- The first of two declarators starts where the declaration starts, and the group of a switch has
no statements: still everything has a place of its own. -/
theorem lower_spans_within_switch :
    let root := Production.unit [Production.localVariable [Production.modifier "def"] none
        [Production.declarator "a" none, Production.declarator "b" none],
      Production.switchStatement (Production.identifier "a")
        [Production.switchGroup [Production.defaultLabel] []]]
    ∃ unit items, lower {} ⟨root.layOut.root, []⟩ = .ok unit ∧
      (∀ p ∈ unit.spans, p.Within unit.span) ∧
      unit.statements = items.flatMap TopLevel.toStatements ∧
      List.Forall₂ (fun m item => ∀ p ∈ item.spans, p.Within m.span)
        (root.layOut.root.nodes .statement) items := by
  intro root
  obtain ⟨unit, hlower, _⟩ := Lowered.exists_of_any
    (x := lower {} ⟨root.layOut.root, []⟩) (p := fun _ => true) (by decide +kernel)
  have hfilled : ∀ m ∈ root.layOut.root.nodes .statement, m.IsFilled ∧ m.BlocksFilled := by
    decide +kernel
  have hblank : blankReturn {} root.layOut.root = [] := if_neg (by decide +kernel)
  obtain ⟨hunit, items, hstatements, _, hitems⟩ := lower_spans_within hlower
  rw [hblank, List.append_nil] at hstatements
  refine ⟨unit, items, hlower, hunit, hstatements, ?_⟩
  exact ((List.forall₂_and_left _ _).2 ⟨hfilled, hitems⟩).imp fun m item h => h.2.2 h.1.1 h.1.2

/-- A statement list without statements as the body of a try statement: the statement is filled, and
the block that the list is taken for is at the start of the file, above the statement. -/
theorem topLevel_outside_try :
    let root := Production.unit [Production.expressionStatement (Production.identifier "a"),
      Production.tryStatement (Production.blockStatements []) [] none]
    (∃ unit, lower {} ⟨root.layOut.root, []⟩ = .ok unit) ∧
      ∃ m ∈ root.layOut.root.nodes .statement, m.IsFilled ∧
        ∃ item, (Scope.outermost ({} : LowerOptions).maxDepth).topLevel {} m = .ok item ∧
          ∃ p ∈ item.spans, ¬p.Within m.span := by
  intro root
  have houtside : ∃ m ∈ root.layOut.root.nodes .statement, m.IsFilled ∧
      (((Scope.outermost ({} : LowerOptions).maxDepth).topLevel {} m).toOption.any fun item =>
        item.spans.any fun p => decide ¬p.Within m.span) = true := by
    decide +kernel
  obtain ⟨unit, hlower, _⟩ := Lowered.exists_of_any
    (x := lower {} ⟨root.layOut.root, []⟩) (p := fun _ => true) (by decide +kernel)
  obtain ⟨m, hm, hfilled, hspans⟩ := houtside
  obtain ⟨item, hitem, hspans⟩ := Lowered.exists_of_any hspans
  obtain ⟨p, hp, hout⟩ := List.any_eq_true.1 hspans
  exact ⟨⟨unit, hlower⟩, m, hm, hfilled, item, hitem, p, hp, of_decide_eq_true hout⟩

end GroovyLowering
