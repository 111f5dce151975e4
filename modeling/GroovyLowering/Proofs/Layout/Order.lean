import GroovyLowering.Proofs.Layout.Cursor
import GroovyLowering.Proofs.Tokens
import Mathlib.Data.List.Pairwise
import Mathlib.Tactic.MkIffOfInductiveProp

/-!
# Tokens in order

The tokens of a laid-out tree do not overlap and come in the order of their positions
(`Node.inOrder_layOut`), and the first of them stands at the start of the file
(`Node.start_layOut`).

So the span of a node takes in the spans of all nodes and tokens that are made of its tokens
(`Node.spanOr_within`, `Token.span_within`).  This holds of every ordered list of tokens, so the
tree that a node is a part of does not matter any more.
-/

namespace GroovyLowering

variable {p q : Span} {t u : Token} {ts us : List Token} {n m : Node} {fallback : Span}

/-! ## Spans within spans -/

namespace Span

/-- A region of a source that lies within another one. -/
@[mk_iff]
structure Within (p q : Span) : Prop where
  /-- It ends where it starts, or behind. -/
  ordered : toLex p.start ≤ toLex p.stop
  /-- It does not start before the other one. -/
  start : toLex q.start ≤ toLex p.start
  /-- It does not end behind the other one. -/
  stop : toLex p.stop ≤ toLex q.stop

instance : DecidableRel Within := fun p q => decidable_of_iff _ (within_iff p q).symm

end Span

/-! ## Ordered tokens -/

/-- Tokens that end where they start or behind, and that follow one another. -/
structure Token.InOrder (ts : List Token) : Prop where
  forward : ∀ t ∈ ts, toLex t.start ≤ toLex t.stop
  apart : ts.Pairwise fun t u => toLex t.stop ≤ toLex u.start

namespace Token.InOrder

theorem sublist (h : InOrder ts) (hsub : us.Sublist ts) : InOrder us :=
  ⟨fun t ht => h.forward t (hsub.subset ht), h.apart.sublist hsub⟩

theorem head_start_le (h : InOrder ts) (hne : ts ≠ []) (ht : t ∈ ts) :
    toLex (ts.head hne).start ≤ toLex t.start := by
  have hstarts : ts.Pairwise fun t u => toLex t.start ≤ toLex u.start :=
    h.apart.imp_of_mem fun ht _ htu => (h.forward _ ht).trans htu
  exact hstarts.rel_head_of_rel_head_head ht le_rfl

theorem stop_le_getLast (h : InOrder ts) (hne : ts ≠ []) (ht : t ∈ ts) :
    toLex t.stop ≤ toLex (ts.getLast hne).stop := by
  have hstops : ts.Pairwise fun t u => toLex t.stop ≤ toLex u.stop :=
    h.apart.imp_of_mem fun _ hu htu => htu.trans (h.forward _ hu)
  exact hstops.rel_getLast_of_rel_getLast_getLast ht le_rfl

end Token.InOrder

/-- The span of a token ends where the token ends, or on the line before that. -/
theorem Token.span_stop_le (t : Token) : toLex t.span.stop ≤ toLex t.stop := by
  rw [Prod.Lex.toLex_le_toLex, Token.stop]
  split_ifs with hfeed
  · exact Or.inr ⟨rfl, le_rfl⟩
  · exact Or.inl (Nat.lt_add_of_pos_right (Nat.pos_of_ne_zero hfeed))

theorem Token.span_ordered (t : Token) : toLex t.span.start ≤ toLex t.span.stop :=
  Prod.Lex.toLex_le_toLex.2 (Or.inr ⟨rfl, Nat.le_add_right _ _⟩)

/-! ## Spans made of tokens -/

/-- What starts with a token of a node and ends no later than another one lies within the node. -/
theorem Node.within_of_mem (h : Token.InOrder m.allTokens) (ht : t ∈ m.allTokens)
    (hu : u ∈ m.allTokens) (hstart : p.start = t.start) (hstop : toLex p.stop ≤ toLex u.stop)
    (hordered : toLex p.start ≤ toLex p.stop) : p.Within m.span := by
  have hne : m.allTokens ≠ [] := List.ne_nil_of_mem ht
  rw [Node.span, Node.spanOr_of_ne_nil hne]
  refine ⟨hordered, ?_, hstop.trans (h.stop_le_getLast hne hu)⟩
  rw [hstart]
  exact h.head_start_le hne ht

theorem Token.span_within (h : Token.InOrder m.allTokens) (ht : t ∈ m.allTokens) :
    t.span.Within m.span :=
  Node.within_of_mem h ht ht rfl t.span_stop_le t.span_ordered

theorem Node.start_spanOr (h : n.allTokens ≠ []) (fallback : Span) :
    (n.spanOr fallback).start = (n.allTokens.head h).start := by
  rw [Node.spanOr_of_ne_nil h]
  rfl

theorem Node.stop_spanOr (h : n.allTokens ≠ []) (fallback : Span) :
    (n.spanOr fallback).stop = (n.allTokens.getLast h).stop := by
  rw [Node.spanOr_of_ne_nil h]
  rfl

/-- From where a node starts to where one made of its tokens ends. -/
theorem Node.withStartOf_within (h : Token.InOrder m.allTokens)
    (hn : n.allTokens.Sublist m.allTokens) {d : Node} (hd : d.allTokens.Sublist n.allTokens)
    (hne : d.allTokens ≠ []) : ((d.spanOr fallback).withStartOf n.span).Within m.span := by
  have hlast := List.getLast_mem hne
  have hnne : n.allTokens ≠ [] := List.ne_nil_of_mem (hd.subset hlast)
  have hstart : ((d.spanOr fallback).withStartOf n.span).start = (n.allTokens.head hnne).start :=
    Node.start_spanOr hnne _
  have hstop : ((d.spanOr fallback).withStartOf n.span).stop = (d.allTokens.getLast hne).stop :=
    Node.stop_spanOr hne _
  refine within_of_mem h (hn.subset (List.head_mem hnne)) (hn.subset (hd.subset hlast)) hstart
    (by rw [hstop]) ?_
  rw [hstart, hstop]
  calc toLex (n.allTokens.head hnne).start
    _ ≤ toLex (d.allTokens.getLast hne).start :=
      (h.sublist hn).head_start_le hnne (hd.subset hlast)
    _ ≤ toLex (d.allTokens.getLast hne).stop := h.forward _ (hn.subset (hd.subset hlast))

/-- A node with tokens lies within every node that has all of them. -/
theorem Node.spanOr_within (h : Token.InOrder m.allTokens) (hn : n.allTokens.Sublist m.allTokens)
    (hne : n.allTokens ≠ []) : (n.spanOr fallback).Within m.span := by
  have hsame : (n.spanOr fallback).withStartOf n.span = n.spanOr fallback := by
    rw [Node.span, Node.spanOr_of_ne_nil hne, Node.spanOr_of_ne_nil hne]
    rfl
  rw [← hsame]
  exact withStartOf_within h hn (List.Sublist.refl _) hne

theorem Node.IsPartOf.token_within {role : Role} (h : Token.InOrder m.allTokens)
    (hn : n.IsPartOf m) (ht : t ∈ n.tokens role) : t.span.Within m.span :=
  Token.span_within h (hn.sublist.subset (mem_allTokens_of_mem_tokens ht))

theorem Node.spanOr_within_of_within (h : Token.InOrder m.allTokens)
    (hn : n.allTokens.Sublist m.allTokens) (hfallback : fallback.Within m.span) :
    (n.spanOr fallback).Within m.span := by
  by_cases hne : n.allTokens = []
  · rw [spanOr_of_eq_nil hne]
    exact hfallback
  · exact spanOr_within h hn hne

/-! ## Spans one behind the other -/

/-- The subtrees of a role stand one behind the other. -/
theorem Node.pairwise_nodes_allTokens (h : Token.InOrder n.allTokens) (role : Role) :
    (n.nodes role).Pairwise fun c d =>
      ∀ t ∈ c.allTokens, ∀ u ∈ d.allTokens, toLex t.stop ≤ toLex u.start := by
  obtain ⟨kind, children⟩ := n
  induction children with
  | nil => exact .nil
  | cons child rest ih =>
    obtain ⟨r, e⟩ := child
    have hrest := ih (h.sublist (List.sublist_append_right _ _))
    have hbehind := (List.pairwise_append.1 h.apart).2.2
    cases e with
    | token t => exact hrest
    | node m =>
      by_cases hr : r = role
      · have hnodes : Node.nodes ⟨kind, (r, .node m) :: rest⟩ role =
            m :: Node.nodes ⟨kind, rest⟩ role := by simp [nodes, Element.nodeIn?, hr]
        rw [hnodes]
        refine .cons (fun d hd t ht u hu => ?_) hrest
        exact hbehind t ht u ((isChildOf_of_mem_nodes hd).sublist.subset hu)
      · have hnodes : Node.nodes ⟨kind, (r, .node m) :: rest⟩ role =
            Node.nodes ⟨kind, rest⟩ role := by simp [nodes, Element.nodeIn?, hr]
        rw [hnodes]
        exact hrest

/-- The spans of the subtrees of a role do not overlap, if all of them have tokens. -/
theorem Node.pairwise_nodes_span {role : Role} (h : Token.InOrder n.allTokens)
    (hne : ∀ c ∈ n.nodes role, c.allTokens ≠ []) :
    (n.nodes role).Pairwise fun c d => toLex c.span.stop ≤ toLex d.span.start := by
  refine (pairwise_nodes_allTokens h role).imp_of_mem fun {c d} hc hd hapart => ?_
  rw [Node.span, Node.span, stop_spanOr (hne c hc), start_spanOr (hne d hd)]
  exact hapart _ (List.getLast_mem _) _ (List.head_mem _)

/-! ## Laid-out trees -/

theorem Spread.inOrder {front whole : List Char} (h : Spread front ts whole) :
    Token.InOrder ts := by
  induction h with
  | nil => exact ⟨List.forall_mem_nil _, .nil⟩
  | @cons front gap t ts whole hgap hstart h ih =>
    have hstop := Token.stop_eq_behind hstart
    refine ⟨List.forall_mem_cons.2 ⟨?_, ih.forward⟩, .cons (fun u hu => ?_) ih.apart⟩
    · rw [hstart, hstop]
      exact Text.behind_le_behind _ _
    · obtain ⟨more, after, hwhole, hbehind⟩ := h.exists_of_mem hu
      rw [hstop, hbehind]
      exact Text.behind_le_behind _ _

/-- The first token that is written to an empty text stands at its start. -/
theorem Cursor.Writes.start_eq {d : Cursor} (h : Writes {} (t :: ts) d) : t.start = (1, 1) := by
  generalize hc : ({} : Cursor) = c at h
  generalize hus : t :: ts = us at h
  induction h with
  | done => cases hus
  | newLine h ih =>
    subst hc
    exact ih rfl hus
  | token u h =>
    subst hc
    cases hus
    rfl

theorem Node.inOrder_layOut (n : Node) : Token.InOrder n.layOut.root.allTokens :=
  n.spread_layOut.inOrder

theorem Node.start_layOut (n : Node) : n.layOut.root.span.start = (1, 1) := by
  have hwrites : Cursor.Writes {} n.layOut.root.allTokens (n.place {}).2 := n.writes_place {}
  by_cases hne : n.layOut.root.allTokens = []
  · rw [Node.span, Node.spanOr_of_eq_nil hne]
    rfl
  · rw [Node.span, Node.start_spanOr hne]
    rw [← List.cons_head_tail hne] at hwrites
    exact hwrites.start_eq

theorem Node.fileStart_within_layOut (n : Node) : Span.fileStart.Within n.layOut.root.span := by
  by_cases hne : n.layOut.root.allTokens = []
  · rw [Node.span, Node.spanOr_of_eq_nil hne]
    exact ⟨le_rfl, le_rfl, le_rfl⟩
  · have hself : n.layOut.root.span.Within n.layOut.root.span :=
      Node.spanOr_within n.inOrder_layOut (List.Sublist.refl _) hne
    have hordered := hself.ordered
    rw [n.start_layOut] at hordered
    refine ⟨le_rfl, ?_, hordered⟩
    rw [n.start_layOut]
    exact le_rfl

end GroovyLowering
