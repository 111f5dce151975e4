import GroovyLowering.Tree.Construct.Expression
import Mathlib.Data.List.Induction

/-!
# What a tree written by hand answers

The steps that put a tree together append children, so every query by role has an equation for
every step.  They are simp lemmas: a query on a production with concrete roles is computed by
`simp`.

Punctuation stands between the children of a list, and no query but one for punctuation sees it.
-/

namespace GroovyLowering

@[simp] theorem Token.kind_unplaced (kind : TokenKind) (text : String) :
    (unplaced kind text).kind = kind := rfl

@[simp] theorem Token.text_unplaced (kind : TokenKind) (text : String) :
    (unplaced kind text).text = text := rfl

namespace Node

variable (n : Node) (role r : Role)

/-! ## Lists with separators -/

/-- A list with separators is put together from left to right. -/
theorem withSeparated_concat (separator : String) (cs : List Node) (c : Node) (h : cs ≠ []) :
    n.withSeparated separator r (cs ++ [c]) =
      ((n.withSeparated separator r cs).punct separator).withNode r c := by
  cases cs with
  | nil => exact absurd rfl h
  | cons first others =>
    rw [List.cons_append, withSeparated, withSeparated, List.foldl_append]
    rfl

/-- What holds of the node in front of a list, with one child behind it and with every further
child behind a separator holds of the whole list. -/
theorem withSeparated_induction {P : Node → List Node → Prop} {n : Node} {r : Role}
    {separator : String} (hnil : P n []) (hfirst : ∀ c, P (n.withNode r c) [c])
    (hnext : ∀ m cs c, cs ≠ [] → P m cs → P ((m.punct separator).withNode r c) (cs ++ [c]))
    (cs : List Node) : P (n.withSeparated separator r cs) cs := by
  induction cs using List.reverseRecOn with
  | nil => exact hnil
  | append_singleton cs c ih =>
    by_cases h : cs = []
    · subst h
      exact hfirst c
    · rw [withSeparated_concat n r separator cs c h]
      exact hnext _ cs c h ih

/-! ## The production -/

@[simp] theorem kind_bare (kind : NodeKind) : (bare kind).kind = kind := rfl

@[simp] theorem kind_withNode (c : Node) : (n.withNode role c).kind = n.kind := rfl

@[simp] theorem kind_write (kind : TokenKind) (text : String) :
    (n.write role kind text).kind = n.kind := rfl

@[simp] theorem kind_punct (text : String) : (n.punct text).kind = n.kind := rfl

@[simp] theorem kind_withNodes (cs : List Node) : (n.withNodes role cs).kind = n.kind := by
  induction cs generalizing n with
  | nil => rfl
  | cons c cs ih => exact ih (n.withNode role c)

@[simp] theorem kind_withSeparated (separator : String) (cs : List Node) :
    (n.withSeparated separator role cs).kind = n.kind := by
  refine withSeparated_induction (P := fun m _ => m.kind = n.kind) rfl (fun _ => rfl) ?_ cs
  intro m _ c _ hm
  exact hm

/-! ## Subtrees -/

@[simp] theorem nodes_bare (kind : NodeKind) : (bare kind).nodes role = [] := rfl

@[simp] theorem nodes_withNode (c : Node) :
    (n.withNode r c).nodes role = n.nodes role ++ if r = role then [c] else [] := by
  rw [nodes, withNode, List.filterMap_append]
  by_cases h : r = role <;> simp [nodes, Element.nodeIn?, h]

@[simp] theorem nodes_write (kind : TokenKind) (text : String) :
    (n.write r kind text).nodes role = n.nodes role := by
  simp [write, withToken, nodes, Element.nodeIn?]

@[simp] theorem nodes_punct (text : String) : (n.punct text).nodes role = n.nodes role :=
  nodes_write ..

@[simp] theorem nodes_withNodes (cs : List Node) :
    (n.withNodes r cs).nodes role = n.nodes role ++ if r = role then cs else [] := by
  induction cs generalizing n with
  | nil => simp [withNodes]
  | cons c cs ih =>
    rw [show n.withNodes r (c :: cs) = (n.withNode r c).withNodes r cs from rfl, ih, nodes_withNode]
    by_cases h : r = role <;> simp [h]

@[simp] theorem nodes_withSeparated (separator : String) (cs : List Node) :
    (n.withSeparated separator r cs).nodes role = n.nodes role ++ if r = role then cs else [] := by
  refine withSeparated_induction
    (P := fun m cs => m.nodes role = n.nodes role ++ if r = role then cs else []) ?_ ?_ ?_ cs
  · simp
  · intro c
    rw [nodes_withNode]
  · intro m cs c _ hm
    rw [nodes_withNode, nodes_punct, hm]
    by_cases h : r = role <;> simp [h]

/-! ## Tokens -/

@[simp] theorem tokens_bare (kind : NodeKind) : (bare kind).tokens role = [] := rfl

@[simp] theorem tokens_withNode (c : Node) : (n.withNode r c).tokens role = n.tokens role := by
  simp [withNode, tokens, Element.tokenIn?]

@[simp] theorem tokens_write (kind : TokenKind) (text : String) :
    (n.write r kind text).tokens role =
      n.tokens role ++ if r = role then [.unplaced kind text] else [] := by
  rw [tokens, write, withToken, List.filterMap_append]
  by_cases h : r = role <;> simp [tokens, Element.tokenIn?, h]

@[simp] theorem tokens_punct (text : String) (h : role ≠ .punct) :
    (n.punct text).tokens role = n.tokens role := by
  rw [punct, tokens_write, if_neg h.symm, List.append_nil]

/-! ## Whether there is a child -/

@[simp] theorem has_bare (kind : NodeKind) : (bare kind).has role = false := rfl

@[simp] theorem has_withNode (c : Node) :
    (n.withNode r c).has role = (n.has role || r == role) := by
  simp [withNode, has]

@[simp] theorem has_write (kind : TokenKind) (text : String) :
    (n.write r kind text).has role = (n.has role || r == role) := by
  simp [write, withToken, has]

@[simp] theorem has_punct (text : String) :
    (n.punct text).has role = (n.has role || Role.punct == role) :=
  has_write ..

@[simp] theorem has_withSeparated (separator : String) (cs : List Node) (h : role ≠ .punct) :
    (n.withSeparated separator r cs).has role = (n.has role || (!cs.isEmpty && r == role)) := by
  refine withSeparated_induction
    (P := fun m cs => m.has role = (n.has role || (!cs.isEmpty && r == role))) ?_ ?_ ?_ cs
  · simp
  · intro c
    simp
  · intro m cs c hcs hm
    have hpunct : (Role.punct == role) = false := beq_eq_false_iff_ne.2 h.symm
    have hconcat : (cs ++ [c]).isEmpty = false := List.isEmpty_eq_false_iff.2 (by simp)
    rw [has_withNode, has_punct, hm, hpunct, List.isEmpty_eq_false_iff.2 hcs, hconcat]
    simp

end Node

end GroovyLowering
