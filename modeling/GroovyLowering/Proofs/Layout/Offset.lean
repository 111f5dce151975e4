import GroovyLowering.Proofs.Layout.Cursor
import GroovyLowering.Proofs.Tokens
import GroovyLowering.Tree.Construct.Declaration
import Mathlib.Data.List.Chain

/-!
# Layout and offsets agree

Positions are computed in three places: by the cursor of a layout, by the spans of nodes, and by the
search for an offset in the lines of a source.  They agree on every tree that is laid out
(`Node.layOut_agrees`).

* The tree is the one that was laid out, positions aside.
* Tokens that follow one another have at most a space or a line feed between them in the source.
* At the offset of a token the source has the text of the token.
* The span of a node goes from the offset of its first token to the end of its last one.

All of it is read off the list of tokens that is spread over the source.
-/

namespace GroovyLowering

/-! ## Trees without positions -/

/-- A token without a position. -/
def Token.withoutPosition (t : Token) : Token := .unplaced t.kind t.text

mutual

/-- A tree without positions. -/
def Node.withoutPositions : Node → Node
  | ⟨kind, children⟩ => ⟨kind, withoutPositionsIn children⟩

/-- A child without positions. -/
def Element.withoutPositions : Element → Element
  | .node n => .node n.withoutPositions
  | .token t => .token t.withoutPosition

/-- Children without positions. -/
def withoutPositionsIn : List (Role × Element) → List (Role × Element)
  | [] => []
  | (role, e) :: rest => (role, e.withoutPositions) :: withoutPositionsIn rest

end

mutual

theorem Node.withoutPositions_place : ∀ (n : Node) (c : Cursor),
    (n.place c).1.withoutPositions = n.withoutPositions
  | ⟨kind, children⟩, c => by
    rw [Node.place, Node.withoutPositions, Node.withoutPositions,
      withoutPositions_placeIn _ _ children c]

theorem Element.withoutPositions_place : ∀ (e : Element) (c : Cursor),
    (e.place c).1.withoutPositions = e.withoutPositions
  | .node n, c => by
    rw [Element.place, Element.withoutPositions, Element.withoutPositions,
      Node.withoutPositions_place n c]
  | .token t, c => rfl

theorem withoutPositions_placeIn (isStacked hasStatements : Bool) :
    ∀ (children : List (Role × Element)) (c : Cursor),
      withoutPositionsIn (placeIn isStacked hasStatements children c).1 =
        withoutPositionsIn children
  | [], c => rfl
  | (role, e) :: rest, c => by
    rw [placeIn, withoutPositionsIn, withoutPositionsIn, Element.withoutPositions_place e,
      withoutPositions_placeIn isStacked hasStatements rest]

end

/-! ## Tokens in a source -/

namespace Token

/-- A token stands in a source before another one, with a gap between the two. -/
def IsNextTo (source : String) (t u : Token) : Prop :=
  t.endOffset source ≤ u.offset source ∧
    (source.toList.drop (t.endOffset source)).take (u.offset source - t.endOffset source) ∈ gaps

end Token

namespace Spread

variable {front whole : List Char} {ts : List Token} {t : Token} {source : String}

/-- The source has the text of a token at the offset of the token. -/
theorem take_offset (h : Spread front ts source.toList) (ht : t ∈ ts) :
    (source.toList.drop (t.offset source)).take t.text.length = t.text.toList := by
  obtain ⟨more, after, hwhole, hbehind⟩ := h.exists_of_mem ht
  rw [List.append_assoc] at hwhole
  rw [Token.offset_eq_length hbehind hwhole, hwhole, List.drop_left, ← String.length_toList,
    List.take_left]

/-- A token ends where another one starts, or before. -/
theorem pairwise_offset (h : Spread front ts source.toList) :
    ts.Pairwise fun t u => t.endOffset source ≤ u.offset source := by
  generalize hsource : source.toList = whole at h
  induction h with
  | nil => exact .nil
  | @cons front gap t ts whole hgap hstart h ih =>
    subst hsource
    refine .cons (fun u hu => ?_) (ih rfl)
    obtain ⟨rest, hrest⟩ := h.exists_append
    obtain ⟨more, after, hwhole, hbehind⟩ := h.exists_of_mem hu
    rw [List.append_assoc] at hwhole
    rw [Token.endOffset_eq_length hstart hrest, Token.offset_eq_length hbehind hwhole]
    exact (List.prefix_append _ more).length_le

theorem isChain_isNextTo (h : Spread front ts source.toList) :
    ts.IsChain (Token.IsNextTo source) := by
  generalize hsource : source.toList = whole at h
  induction h with
  | nil => exact .nil
  | @cons front gap t ts whole hgap hstart h ih =>
    cases h with
    | nil => exact .singleton t
    | @cons _ gap' u us _ hgap' hstart' h' =>
      refine .cons_cons ?_ (ih hsource)
      obtain ⟨rest, hrest⟩ := h'.exists_append
      rw [← hsource, List.append_assoc] at hrest
      have hu := Token.offset_eq_length hstart' hrest
      rw [List.append_assoc _ gap'] at hrest
      have ht := Token.endOffset_eq_length hstart hrest
      have hlength : (front ++ gap ++ t.text.toList ++ gap').length =
          (front ++ gap ++ t.text.toList).length + gap'.length := List.length_append
      rw [Token.IsNextTo, ht, hu, hlength, Nat.add_sub_cancel_left, hrest, List.drop_left,
        List.take_left]
      exact ⟨Nat.le_add_right _ _, hgap'⟩

end Spread

/-! ## Nodes -/

/-- The span of a node whose tokens are spread over a source, as offsets. -/
theorem Node.charRange_span {n m : Node} {source : String} (hm : m.IsPartOf n)
    (h : Spread [] n.allTokens source.toList) (hne : m.allTokens ≠ []) :
    m.span.charRange source =
      ((m.allTokens.head hne).offset source, (m.allTokens.getLast hne).endOffset source) := by
  have hlast := hm.sublist.subset (List.getLast_mem hne)
  obtain ⟨more, after, hwhole, hbehind⟩ := h.exists_of_mem hlast
  have hstop := Token.offsetOf_stop hbehind hwhole
  -- The end of the last token is not before the first one, also when they are the same.
  have hle : (m.allTokens.head hne).offset source ≤
      (m.allTokens.getLast hne).endOffset source := by
    have hpairs : m.allTokens.Pairwise fun t u => t.offset source ≤ u.endOffset source := by
      refine (h.pairwise_offset.sublist hm.sublist).imp fun {t u} htu => ?_
      calc t.offset source ≤ t.endOffset source := Nat.le_add_right _ _
        _ ≤ u.offset source := htu
        _ ≤ u.endOffset source := Nat.le_add_right _ _
    exact hpairs.rel_head_of_rel_head_head (List.getLast_mem hne) (Nat.le_add_right _ _)
  have hstart : Span.offsetOf source (m.allTokens.head hne).line
      ((m.allTokens.head hne).column + 1) = (m.allTokens.head hne).offset source := rfl
  rw [Node.span, Node.spanOr_of_ne_nil hne, Span.charRange]
  dsimp only
  rw [hstop, hstart, Nat.max_eq_left hle]

/-- **The layout of a tree, the spans of its nodes and the offsets in its source agree.**  Nothing
but positions is changed, tokens have at most a space or a line feed between them, each of them is
found at its offset, and every node with tokens runs from its first token to the end of its last
one. -/
theorem Node.layOut_agrees (n : Node) :
    n.layOut.root.withoutPositions = n.withoutPositions ∧
      n.layOut.root.allTokens.IsChain (Token.IsNextTo n.layOut.source) ∧
      (∀ t ∈ n.layOut.root.allTokens,
        (n.layOut.source.toList.drop (t.offset n.layOut.source)).take t.text.length =
          t.text.toList) ∧
      ∀ m, IsPartOf m n.layOut.root → ∀ hne : m.allTokens ≠ [],
        m.span.charRange n.layOut.source =
          ((m.allTokens.head hne).offset n.layOut.source,
            (m.allTokens.getLast hne).endOffset n.layOut.source) := by
  have hspread := n.spread_layOut
  refine ⟨n.withoutPositions_place {}, hspread.isChain_isNextTo, ?_, ?_⟩
  · intro t ht
    exact hspread.take_offset ht
  · intro m hm hne
    exact charRange_span hm hspread hne

/-- A string over two lines, with a name without characters below it: the file runs over both. -/
theorem Node.layOut_agrees_lines :
    let n := Production.unit [Production.expressionStatement (Production.string "'é\n'"),
      Production.expressionStatement (Production.identifier "")]
    n.layOut.source = "'é\n'\n" ∧ n.layOut.root.span.charRange n.layOut.source = (0, 5) := by
  intro n
  have hrange := n.layOut_agrees.2.2.2 n.layOut.root Relation.ReflTransGen.refl
    (by decide +kernel)
  refine ⟨by decide +kernel, hrange.trans ?_⟩
  decide +kernel

end GroovyLowering
