import GroovyLowering.Proofs.Relayout
import GroovyLowering.Proofs.Written.Text
import GroovyLowering.Tree.Layout

/-!
# What laying a tree out keeps

Laying a tree out gives its tokens positions and changes nothing else, so the result is the same
tree in another layout (`Node.relaid_place`).

The source that is written is the text of the tree with spaces and line feeds added.  A tree in
which nothing is stacked has no line feeds added, so its source and its text are the same but for
the spaces (`Node.unspaced_place`).
-/

namespace GroovyLowering

namespace Node

/-! ## The tree -/

theorem Relaid.inside {c d : Node} (h : Relaid c d) (kind : NodeKind)
    (front back : List (Role × Element)) (role : Role) :
    Relaid ⟨kind, front ++ (role, .node c) :: back⟩ ⟨kind, front ++ (role, .node d) :: back⟩ := by
  induction h with
  | refl => exact Relation.ReflTransGen.refl
  | tail _ hedit ih => exact Relation.ReflTransGen.tail ih (.inside kind front back role hedit)

end Node

mutual

theorem Node.relaid_place : ∀ (n : Node) (c : Cursor), n.Relaid (n.place c).1
  | ⟨kind, children⟩, c => by
    rw [Node.place]
    exact relaid_placeIn kind kind.isStacked (children.any fun child => child.1 == .statement)
      children [] c

theorem Element.relaid_place (kind : NodeKind) (role : Role) :
    ∀ (e : Element) (front back : List (Role × Element)) (c : Cursor),
      Node.Relaid ⟨kind, front ++ (role, e) :: back⟩
        ⟨kind, front ++ (role, (e.place c).1) :: back⟩
  | .node n, front, back, c => by
    rw [Element.place]
    exact (Node.relaid_place n c).inside kind front back role
  | .token t, front, back, c => by
    rw [Element.place]
    exact Relation.ReflTransGen.single (Node.Edit.move kind front back role t _ _)

/-- The children in front are placed already. -/
theorem relaid_placeIn (kind : NodeKind) (isStacked hasStatements : Bool) :
    ∀ (children front : List (Role × Element)) (c : Cursor),
      Node.Relaid ⟨kind, front ++ children⟩
        ⟨kind, front ++ (placeIn isStacked hasStatements children c).1⟩
  | [], _, _ => Relation.ReflTransGen.refl
  | (role, e) :: rest, front, c => by
    rw [placeIn]
    generalize (if isStacked && (role == .punct && rest.isEmpty && hasStatements ||
      role.startsLine) then c.newLine else c) = here
    have hfirst := Element.relaid_place kind role e front rest here
    have hrest := relaid_placeIn kind isStacked hasStatements rest
      (front ++ [(role, (e.place here).1)]) (e.place here).2
    rw [List.append_assoc, List.append_assoc] at hrest
    exact Relation.ReflTransGen.trans hfirst hrest

end

/-! ## The source -/

mutual

/-- Whether no production of a tree stacks its children. -/
def Node.isFlat : Node → Bool
  | ⟨kind, children⟩ => !kind.isStacked && isFlatIn children

/-- Whether no production of a child stacks its children. -/
def Element.isFlat : Element → Bool
  | .node n => n.isFlat
  | .token _ => true

/-- Whether no production of a list of children stacks its children. -/
def isFlatIn : List (Role × Element) → Bool
  | [] => true
  | (_, e) :: rest => e.isFlat && isFlatIn rest

end

namespace Cursor

theorem unspaced_space (c : Cursor) : unspaced c.space.text = unspaced c.text := by
  rw [space]
  split
  · rfl
  · rw [unspaced_append, GroovyLowering.unspaced_space, List.append_nil]

theorem unspaced_write (c : Cursor) (text : String) :
    unspaced (c.write text).text = unspaced c.text ++ unspaced text := by
  rw [write, unspaced_append]

end Cursor

theorem Token.unspaced_place (t : Token) (c : Cursor) :
    unspaced (t.place c).2.text = unspaced c.text ++ unspaced t.text := by
  rw [place, Cursor.unspaced_write, Cursor.unspaced_space]

/-- The texts of children with nothing between them, spaces left out. -/
def unspacedIn (children : List (Role × Element)) : List Char :=
  (allTokensIn children).flatMap fun t => unspaced t.text

theorem Node.unspaced_text (n : Node) : unspaced n.text = unspacedIn n.children := by
  obtain ⟨kind, children⟩ := n
  rw [Node.text, unspaced_join, Node.allTokens, List.flatMap_map, unspacedIn]

mutual

/-- What a flat tree adds to the source is its text, spaces left out. -/
theorem Node.unspaced_place : ∀ (n : Node) (c : Cursor), n.isFlat →
    unspaced (n.place c).2.text = unspaced c.text ++ unspaced n.text
  | ⟨kind, children⟩, c, h => by
    rw [Node.isFlat, Bool.and_eq_true, Bool.not_eq_true'] at h
    rw [Node.place, h.1, Node.unspaced_text]
    exact unspaced_placeIn _ children c h.2

theorem Element.unspaced_place : ∀ (e : Element) (c : Cursor), e.isFlat →
    unspaced (e.place c).2.text =
      unspaced c.text ++ e.allTokens.flatMap fun t => unspaced t.text
  | .node n, c, h => by
    rw [Element.place, Element.allTokens, Node.unspaced_place n c h, Node.text, unspaced_join,
      List.flatMap_map]
  | .token t, c, _ => by
    rw [Element.place, Element.allTokens, List.flatMap_singleton]
    exact t.unspaced_place c

theorem unspaced_placeIn (hasStatements : Bool) :
    ∀ (children : List (Role × Element)) (c : Cursor), isFlatIn children →
      unspaced (placeIn false hasStatements children c).2.text =
        unspaced c.text ++ unspacedIn children
  | [], c, _ => by rw [placeIn, unspacedIn, allTokensIn, List.flatMap_nil, List.append_nil]
  | (role, e) :: rest, c, h => by
    rw [isFlatIn, Bool.and_eq_true] at h
    rw [placeIn, Bool.false_and, if_neg Bool.false_ne_true]
    rw [unspaced_placeIn hasStatements rest _ h.2, Element.unspaced_place e c h.1, unspacedIn,
      unspacedIn, allTokensIn, List.flatMap_append, List.append_assoc]

end

/-! ## Flat trees written by hand -/

theorem isFlatIn_append (front back : List (Role × Element)) :
    isFlatIn (front ++ back) = (isFlatIn front && isFlatIn back) := by
  induction front with
  | nil => rfl
  | cons child front ih => rw [List.cons_append, isFlatIn, isFlatIn, ih, Bool.and_assoc]

namespace Node

variable (n : Node) (r : Role)

theorem isFlat_append (back : List (Role × Element)) :
    isFlat { n with children := n.children ++ back } = (n.isFlat && isFlatIn back) := by
  obtain ⟨kind, front⟩ := n
  rw [isFlat, isFlat, isFlatIn_append, Bool.and_assoc]

@[simp] theorem isFlat_bare (kind : NodeKind) : (bare kind).isFlat = !kind.isStacked :=
  Bool.and_true _

@[simp] theorem isFlat_withNode (c : Node) : (n.withNode r c).isFlat = (n.isFlat && c.isFlat) := by
  rw [withNode, isFlat_append]
  simp [isFlatIn, Element.isFlat]

@[simp] theorem isFlat_write (kind : TokenKind) (text : String) :
    (n.write r kind text).isFlat = n.isFlat := by
  rw [write, withToken, isFlat_append]
  simp [isFlatIn, Element.isFlat]

@[simp] theorem isFlat_punct (text : String) : (n.punct text).isFlat = n.isFlat := isFlat_write ..

@[simp] theorem isFlat_withNodes (cs : List Node) :
    (n.withNodes r cs).isFlat = (n.isFlat && cs.all isFlat) := by
  induction cs generalizing n with
  | nil => rw [List.all_nil, Bool.and_true]; rfl
  | cons c cs ih =>
    rw [show n.withNodes r (c :: cs) = (n.withNode r c).withNodes r cs from rfl, ih,
      isFlat_withNode, List.all_cons, Bool.and_assoc]

@[simp] theorem isFlat_withSeparated (separator : String) (cs : List Node) :
    (n.withSeparated separator r cs).isFlat = (n.isFlat && cs.all isFlat) := by
  refine withSeparated_induction
    (P := fun m cs => m.isFlat = (n.isFlat && cs.all isFlat)) ?_ ?_ ?_ cs
  · rw [List.all_nil, Bool.and_true]
  · intro c
    rw [isFlat_withNode, List.all_cons, List.all_nil, Bool.and_true]
  · intro m cs c _ hm
    rw [isFlat_withNode, isFlat_punct, hm, List.all_append, List.all_cons, List.all_nil,
      Bool.and_true, Bool.and_assoc]

end Node

end GroovyLowering
