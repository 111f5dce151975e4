import GroovyLowering.Proofs.Comparison.Unit
import GroovyLowering.Proofs.Layout.Offset

/-!
# Other positions and more levels

What an expression is lowered to does not depend on where its tokens stand: trees that differ in
positions only are lowered alike, spans aside (`Scope.eraseSpans_expr_of_moved`).

Nor does it depend on how many levels are left, as long as there are enough of them.  So a lowering
with fewer levels agrees with one with more levels, unless it fails for having too few of them
(`Comparison.Scopes.deeper`).

Both are read off one comparison, in which the text that an error quotes is kept.
-/

namespace GroovyLowering

/-! ## Trees with other positions -/

theorem withoutPositionsIn_eq_map (children : List (Role × Element)) :
    withoutPositionsIn children = children.map fun c => (c.1, c.2.withoutPositions) := by
  induction children with
  | nil => rfl
  | cons c rest ih => rw [withoutPositionsIn, ih, List.map_cons]

mutual

theorem Node.allTokens_withoutPositions : ∀ n : Node,
    n.withoutPositions.allTokens = n.allTokens.map Token.withoutPosition
  | ⟨kind, children⟩ => by
    rw [Node.withoutPositions, Node.allTokens, Node.allTokens,
      allTokensIn_withoutPositionsIn children]

theorem Element.allTokens_withoutPositions : ∀ e : Element,
    e.withoutPositions.allTokens = e.allTokens.map Token.withoutPosition
  | .node n => by
    rw [Element.withoutPositions, Element.allTokens, Element.allTokens,
      Node.allTokens_withoutPositions n]
  | .token t => rfl

theorem allTokensIn_withoutPositionsIn : ∀ children : List (Role × Element),
    allTokensIn (withoutPositionsIn children) = (allTokensIn children).map Token.withoutPosition
  | [] => rfl
  | (role, e) :: rest => by
    rw [withoutPositionsIn, allTokensIn, allTokensIn, Element.allTokens_withoutPositions e,
      allTokensIn_withoutPositionsIn rest, List.map_append]

end

namespace Node

variable (n : Node) (role : Role)

theorem kind_withoutPositions : n.withoutPositions.kind = n.kind := by
  cases n
  rfl

theorem children_withoutPositions :
    n.withoutPositions.children = n.children.map fun c => (c.1, c.2.withoutPositions) := by
  cases n
  exact withoutPositionsIn_eq_map _

theorem nodes_withoutPositions :
    n.withoutPositions.nodes role = (n.nodes role).map withoutPositions := by
  rw [nodes, nodes, children_withoutPositions, List.filterMap_map, List.map_filterMap]
  refine List.filterMap_congr fun c _ => ?_
  obtain ⟨r, e⟩ := c
  cases e with
  | node m => by_cases h : r = role <;> simp [Element.withoutPositions, Element.nodeIn?, h]
  | token t => rfl

theorem tokens_withoutPositions :
    n.withoutPositions.tokens role = (n.tokens role).map Token.withoutPosition := by
  rw [tokens, tokens, children_withoutPositions, List.filterMap_map, List.map_filterMap]
  refine List.filterMap_congr fun c _ => ?_
  obtain ⟨r, e⟩ := c
  cases e with
  | node m => rfl
  | token t => by_cases h : r = role <;> simp [Element.withoutPositions, Element.tokenIn?, h]

theorem has_withoutPositions : n.withoutPositions.has role = n.has role := by
  rw [has, has, children_withoutPositions, List.any_map]
  rfl

theorem text_withoutPositions : n.withoutPositions.text = n.text := by
  rw [text, text, allTokens_withoutPositions, List.map_map]
  rfl

/-- Trees that differ in the positions of their tokens at most. -/
def Moved (n m : Node) : Prop := n.withoutPositions = m.withoutPositions

theorem moved_refl : n.Moved n := rfl

theorem forall₂_moved_refl (ns : List Node) : List.Forall₂ Moved ns ns :=
  List.forall₂_same.2 fun n _ => n.moved_refl

theorem moved_layOut : n.layOut.root.Moved n := n.withoutPositions_place {}

end Node

/-! ## The comparison -/

/-- A result with its spans erased. -/
def Lowered.eraseSpans (x : Lowered Expr) : Lowered Expr := Lowered.mapSpans (fun _ => .fileStart) x

/-- A lowering fails because statements and expressions nest too deep. -/
def Lowered.TooDeep {α : Type} (x : Lowered α) : Prop :=
  ∃ limit place, x = .error (.nestingTooDeep limit place)

theorem Lowered.TooDeep.of_eraseSpans_eq {x y : Lowered Expr}
    (h : Lowered.eraseSpans x = Lowered.eraseSpans y) (hx : Lowered.TooDeep x) :
    Lowered.TooDeep y := by
  obtain ⟨limit, place, rfl⟩ := hx
  cases y with
  | ok e => cases h
  | error e =>
    cases e with
    | nestingTooDeep limit' place' => exact ⟨limit', place', rfl⟩
    | structural => cases h
    | invalid => cases h
    | relayed => cases h

theorem Lowered.exists_ok_of_eraseSpans_eq {x y : Lowered Expr}
    (h : Lowered.eraseSpans x = Lowered.eraseSpans y) {e : Expr} (hx : x = .ok e) :
    ∃ e', y = .ok e' ∧ e.eraseSpans = e'.eraseSpans := by
  subst hx
  cases y with
  | ok e' => exact ⟨e', rfl, Except.ok.inj h⟩
  | error => cases h

/-- Two lowerings of trees that differ in positions only, compared without places.  The texts that
errors quote are kept. -/
def Comparison.moved (excuses : CompileError → Prop) : Comparison where
  span _ := .fileStart
  quote := id
  tree := Node.Moved
  excuses := excuses
  kind_eq {n m} h := by
    rw [← n.kind_withoutPositions, h, m.kind_withoutPositions]
  nodes {n m} h role := by
    have hnodes := congrArg (fun n => Node.nodes n role) h
    simp only [Node.nodes_withoutPositions] at hnodes
    rwa [← List.forall₂_eq_eq_eq, List.forall₂_map_left_iff, List.forall₂_map_right_iff] at hnodes
  tokens {n m} h role _ := by
    have htokens := congrArg (fun n => Node.tokens n role) h
    simp only [Node.tokens_withoutPositions] at htokens
    rw [← List.forall₂_eq_eq_eq, List.forall₂_map_left_iff, List.forall₂_map_right_iff] at htokens
    refine htokens.imp fun t u htu => ?_
    obtain ⟨hkind, htext, -⟩ := Token.mk.inj htu
    exact ⟨hkind, htext, rfl⟩
  has_eq {n m} h role _ := by
    rw [← n.has_withoutPositions, h, m.has_withoutPositions]
  spanOr_eq _ _ _ _ := rfl
  upTo_eq _ _ := rfl
  quote_eq {n m} h := by
    rw [← n.text_withoutPositions, h, m.text_withoutPositions]

namespace Comparison

@[simp] theorem moved_span (excuses : CompileError → Prop) (p : Span) :
    (moved excuses).span p = .fileStart :=
  rfl

/-- What is kept of an expression, places aside. -/
theorem Agree.eraseSpans_eq {excuses : CompileError → Prop} {x y : Lowered Expr}
    (h : (moved excuses).Agree (Expr.mapSpans (moved excuses).span) x y) :
    (∃ e, x = .error e ∧ excuses e) ∨ Lowered.eraseSpans x = Lowered.eraseSpans y := by
  have herror : ∀ e, (moved excuses).error e = e.mapSpans fun _ => .fileStart := by
    intro e
    cases e <;> rfl
  cases x with
  | ok a =>
    cases y with
    | ok b => exact Or.inr (congrArg Except.ok h)
    | error e => exact h.elim
  | error e =>
    cases y with
    | ok b => exact Or.inl ⟨e, rfl, h⟩
    | error e' =>
      rcases h with hexcused | hsame
      · exact Or.inl ⟨e, rfl, hexcused⟩
      · rw [herror, herror] at hsame
        exact Or.inr (congrArg Except.error hsame)

/-- The comparison of a lowering with one elsewhere. -/
abbrev elsewhere : Comparison := moved fun _ => False

theorem Scopes.elsewhere (limit left : Nat) (p q : Span) :
    Comparison.elsewhere.Scopes (.level limit left p) (.level limit left q) :=
  Scopes.level (.inl ⟨rfl, rfl⟩) rfl

theorem Agree.eq_elsewhere {x y : Lowered Expr}
    (h : Comparison.elsewhere.Agree (Expr.mapSpans Comparison.elsewhere.span) x y) :
    Lowered.eraseSpans x = Lowered.eraseSpans y := by
  rcases h.eraseSpans_eq with ⟨e, -, hfalse⟩ | hsame
  · exact hfalse.elim
  · exact hsame

/-- The comparison of a lowering with one that may have more levels left. -/
abbrev deeper : Comparison := moved fun e => ∃ limit place, e = .nestingTooDeep limit place

theorem Scopes.deeper {limit left left' : Nat} (h : left ≤ left') (p q : Span) :
    Comparison.deeper.Scopes (.level limit left p) (.level limit left' q) := by
  have hexcused : ∀ place, Comparison.deeper.excuses (.nestingTooDeep limit place) :=
    fun place => ⟨limit, place, rfl⟩
  exact Scopes.level (.inr ⟨hexcused, h⟩) rfl

theorem Agree.tooDeep_or_eq {x y : Lowered Expr}
    (h : Comparison.deeper.Agree (Expr.mapSpans Comparison.deeper.span) x y) :
    Lowered.TooDeep x ∨ Lowered.eraseSpans x = Lowered.eraseSpans y := by
  rcases h.eraseSpans_eq with ⟨e, rfl, limit, place, rfl⟩ | hsame
  · exact Or.inl ⟨limit, place, rfl⟩
  · exact Or.inr hsame

end Comparison

/-! ## Lowering -/

/-- **Positions do not matter.**  An expression whose tokens stand elsewhere is lowered to the same
expression, or refused with the same error, spans aside. -/
theorem Scope.eraseSpans_expr_of_moved {n m : Node} (h : n.Moved m) (limit left : Nat)
    (p q : Span) :
    Lowered.eraseSpans ((level limit left p).expr n) =
      Lowered.eraseSpans ((level limit left q).expr m) :=
  ((Comparison.Scopes.elsewhere limit left p q).expr h).eq_elsewhere

end GroovyLowering
