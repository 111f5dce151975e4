import GroovyLowering.Tree.Extent
import Mathlib.Logic.Relation

/-!
# The tokens of a tree

The tokens of a tree are the list of its leaves from left to right.  What is looked up at one end of
a tree is an end of this list (`Node.firstToken?_eq_head?`, `Node.lastToken?_eq_getLast?`), and the
tokens of a part of the tree stand in it in the same order (`Node.IsPartOf.sublist`).

A search for an end stops at the first subtree with a token, and it has to pass over all subtrees
without one, however deep they are.  The walk over all tokens does not stop at all.  That the two
agree, and that the place of a tree is a matter of its two ends only, is `Node.ends_agree`.
-/

namespace GroovyLowering

/-! ## The ends -/

mutual

theorem Node.firstToken?_eq_head? : ∀ n : Node, n.firstToken? = n.allTokens.head?
  | ⟨kind, children⟩ => by
    rw [Node.firstToken?, Node.allTokens, firstTokenIn?_eq_head? children]

theorem Element.firstToken?_eq_head? : ∀ e : Element, e.firstToken? = e.allTokens.head?
  | .node n => by rw [Element.firstToken?, Element.allTokens, Node.firstToken?_eq_head? n]
  | .token t => by rw [Element.firstToken?, Element.allTokens, List.head?_singleton]

theorem firstTokenIn?_eq_head? :
    ∀ children : List (Role × Element), firstTokenIn? children = (allTokensIn children).head?
  | [] => rfl
  | (role, e) :: rest => by
    rw [firstTokenIn?, allTokensIn, List.head?_append, ← Element.firstToken?_eq_head? e,
      ← firstTokenIn?_eq_head? rest]
    cases e.firstToken? <;> rfl

end

mutual

theorem Node.lastToken?_eq_getLast? : ∀ n : Node, n.lastToken? = n.allTokens.getLast?
  | ⟨kind, children⟩ => by
    rw [Node.lastToken?, Node.allTokens, lastTokenIn?_eq_getLast? children]

theorem Element.lastToken?_eq_getLast? : ∀ e : Element, e.lastToken? = e.allTokens.getLast?
  | .node n => by rw [Element.lastToken?, Element.allTokens, Node.lastToken?_eq_getLast? n]
  | .token t => by rw [Element.lastToken?, Element.allTokens, List.getLast?_singleton]

theorem lastTokenIn?_eq_getLast? :
    ∀ children : List (Role × Element), lastTokenIn? children = (allTokensIn children).getLast?
  | [] => rfl
  | (role, e) :: rest => by
    rw [lastTokenIn?, allTokensIn, List.getLast?_append, ← Element.lastToken?_eq_getLast? e,
      ← lastTokenIn?_eq_getLast? rest]
    cases lastTokenIn? rest <;> rfl

end

namespace Node

variable {c n m : Node} {role : Role}

/-- A node with tokens runs from its first one to its last one. -/
theorem spanOr_of_ne_nil (h : n.allTokens ≠ []) (fallback : Span) :
    n.spanOr fallback = ⟨(n.allTokens.head h).line, (n.allTokens.head h).column + 1,
      (n.allTokens.getLast h).stop.1, (n.allTokens.getLast h).stop.2⟩ := by
  rw [spanOr, firstToken?_eq_head?, lastToken?_eq_getLast?, List.head?_eq_some_head h,
    List.getLast?_eq_some_getLast h]

/-- A node without tokens has no place of its own. -/
theorem spanOr_of_eq_nil (h : n.allTokens = []) (fallback : Span) :
    n.spanOr fallback = fallback := by
  rw [spanOr, firstToken?_eq_head?, h]
  rfl

theorem firstToken?_eq_none_iff : n.firstToken? = none ↔ n.allTokens = [] := by
  rw [firstToken?_eq_head?, List.head?_eq_none_iff]

theorem lastToken?_eq_none_iff : n.lastToken? = none ↔ n.allTokens = [] := by
  rw [lastToken?_eq_getLast?, List.getLast?_eq_none_iff]

theorem toList_text (n : Node) : n.text.toList = n.allTokens.flatMap fun t => t.text.toList := by
  rw [text, String.toList_join, List.flatMap_map]

/-- Only a node without tokens takes every place it is offered. -/
theorem forall_spanOr_eq_iff :
    (∀ fallback, n.spanOr fallback = fallback) ↔ n.allTokens = [] := by
  constructor
  · intro h
    refine Decidable.byContradiction fun hne => ?_
    have hsame : (⟨0, 0, 0, 0⟩ : Span) = ⟨1, 0, 0, 0⟩ := by
      rw [← h ⟨0, 0, 0, 0⟩, ← h ⟨1, 0, 0, 0⟩, spanOr_of_ne_nil hne, spanOr_of_ne_nil hne]
    exact absurd hsame (by decide)
  · exact spanOr_of_eq_nil

theorem spanOr_eq_of_ends_eq (hfirst : m.allTokens.head? = n.allTokens.head?)
    (hlast : m.allTokens.getLast? = n.allTokens.getLast?) (fallback : Span) :
    m.spanOr fallback = n.spanOr fallback := by
  rw [spanOr, spanOr, firstToken?_eq_head?, firstToken?_eq_head?, lastToken?_eq_getLast?,
    lastToken?_eq_getLast?, hfirst, hlast]

/-- **The searches from both ends agree with the walk over all tokens.**  They find the first and
the last token, or nothing if there is none, and the text is that of all tokens.  The place of a
tree goes from the start of the one to the end of the other, so trees of any shape with the same
two tokens have the same place.  Only a tree without tokens has the place it is offered. -/
theorem ends_agree (n : Node) :
    n.firstToken? = n.allTokens.head? ∧ n.lastToken? = n.allTokens.getLast? ∧
    (n.firstToken? = none ↔ n.allTokens = []) ∧ (n.lastToken? = none ↔ n.allTokens = []) ∧
    (n.text.toList = n.allTokens.flatMap fun t => t.text.toList) ∧
    ((∀ fallback, n.spanOr fallback = fallback) ↔ n.allTokens = []) ∧
    (∀ first last, n.firstToken? = some first → n.lastToken? = some last → ∀ fallback,
      n.spanOr fallback = ⟨first.line, first.column + 1, last.stop.1, last.stop.2⟩) ∧
    ∀ m : Node, m.allTokens.head? = n.allTokens.head? →
      m.allTokens.getLast? = n.allTokens.getLast? →
      ∀ fallback, m.spanOr fallback = n.spanOr fallback := by
  refine ⟨firstToken?_eq_head? n, lastToken?_eq_getLast? n, firstToken?_eq_none_iff,
    lastToken?_eq_none_iff, toList_text n, forall_spanOr_eq_iff, ?_,
    fun m => spanOr_eq_of_ends_eq⟩
  intro first last hfirst hlast fallback
  rw [spanOr, hfirst, hlast]

/-- A sum with blocks without tokens at both ends, and a list whose first and last token are those
of the sum.  The last token runs over two lines. -/
theorem ends_agree_emptyEnds :
    let empty : Node := ⟨.blockStatements, []⟩
    let block : Node := ⟨.block, [(.statement, .node empty), (.statement, .node empty)]⟩
    let a : Token := ⟨.identifier, "a", 1, 4⟩
    let b : Token := ⟨.stringLiteral, "/b\nc/", 1, 8⟩
    let literal : Node := ⟨.literal, [(.statement, .node empty), (.literal, .token b)]⟩
    let sum : Node := ⟨.binary, [(.statement, .node block), (.left, .token a),
      (.operator, .token ⟨.operator, "+", 1, 6⟩), (.right, .node literal),
      (.statement, .node empty), (.statement, .node block)]⟩
    let list : Node := ⟨.list, [(.element, .token a), (.element, .node literal)]⟩
    sum.firstToken? = some a ∧ sum.lastToken? = some b ∧ sum.text.toList = "a+/b\nc/".toList ∧
    (∀ fallback, sum.spanOr fallback = ⟨1, 5, 2, 3⟩ ∧ list.spanOr fallback = ⟨1, 5, 2, 3⟩) ∧
    ∀ fallback, block.spanOr fallback = fallback := by
  intro empty block a b literal sum list
  obtain ⟨hfirst, hlast, -, -, htext, -, hspan, hsame⟩ := ends_agree sum
  have hstop : b.stop = (2, 3) := by decide +kernel
  have hsum : ∀ fallback, sum.spanOr fallback = ⟨1, 5, 2, 3⟩ := by
    intro fallback
    rw [hspan a b rfl rfl, hstop]
  refine ⟨hfirst, hlast, htext.trans (by decide +kernel), fun fallback => ⟨hsum fallback, ?_⟩, ?_⟩
  · exact (hsame list rfl rfl fallback).trans (hsum fallback)
  · exact (ends_agree block).2.2.2.2.2.1.2 rfl

/-! ## Parts of a tree -/

/-- A subtree that is a child. -/
def IsChildOf (c n : Node) : Prop := ∃ role, (role, Element.node c) ∈ n.children

/-- A tree itself, and the parts of its subtrees. -/
def IsPartOf : Node → Node → Prop := Relation.ReflTransGen IsChildOf

theorem isChildOf_of_mem_nodes (h : c ∈ n.nodes role) : c.IsChildOf n :=
  ⟨role, mem_children_of_mem_nodes h⟩

theorem sublist_allTokensIn {children : List (Role × Element)} {e : Element}
    (h : (role, e) ∈ children) : e.allTokens.Sublist (allTokensIn children) := by
  induction children with
  | nil => cases h
  | cons child rest ih =>
    obtain ⟨r, e'⟩ := child
    rcases List.mem_cons.1 h with heq | hrest
    · cases heq
      exact List.sublist_append_left _ _
    · exact (ih hrest).trans (List.sublist_append_right _ _)

/-- The tokens of a child stand among those of its parent, in their order. -/
theorem IsChildOf.sublist (h : c.IsChildOf n) : c.allTokens.Sublist n.allTokens := by
  obtain ⟨role, hmem⟩ := h
  obtain ⟨kind, children⟩ := n
  have hchild := sublist_allTokensIn hmem
  rw [Element.allTokens] at hchild
  exact hchild

theorem IsPartOf.sublist (h : c.IsPartOf n) : c.allTokens.Sublist n.allTokens := by
  induction h with
  | refl => exact List.Sublist.refl _
  | tail _ hchild ih => exact ih.trans hchild.sublist

theorem IsPartOf.child (h : n.IsPartOf m) (hc : c ∈ n.nodes role) : c.IsPartOf m :=
  (Relation.ReflTransGen.single (isChildOf_of_mem_nodes hc)).trans h

theorem IsPartOf.child? (h : n.IsPartOf m) (hc : n.node? role = some c) : c.IsPartOf m :=
  h.child (List.mem_of_head? hc)

theorem mem_allTokens_of_mem_tokens {t : Token} (h : t ∈ n.tokens role) : t ∈ n.allTokens := by
  obtain ⟨⟨r, e⟩, hmem, hsome⟩ := List.mem_filterMap.1 h
  obtain ⟨kind, children⟩ := n
  cases e with
  | node m => cases hsome
  | token u =>
    have heq : u = t := by
      rw [Element.tokenIn?] at hsome
      split at hsome
      · exact Option.some.inj hsome
      · cases hsome
    rw [← heq]
    exact (sublist_allTokensIn hmem).subset (List.mem_singleton_self u)

end Node

end GroovyLowering
