import GroovyLowering.Lower.Expression
import GroovyLowering.Proofs.Failure.Basic

/-!
# Expressions that are names of primitive types

Most constructs do not make a variable at all.  A name is written as a token, and parentheses, a
list element and a path without elements hand one on with their own place.  So an expression that
is the name of a primitive type comes from a node with tokens and has the place of a node
(`Scope.Locates.primitive_expression`).
-/

namespace GroovyLowering

open Lowered (Ensures exists_of_bind)

namespace Expr

theorem not_isPrimitive {e : Expr} (h : e.asVariable? = none) : ¬e.IsPrimitive := by
  rintro ⟨v, hshape, _⟩
  rw [asVariable?, hshape] at h
  cases h

theorem not_isPrimitive_self (span : Span) : ¬(self span).IsPrimitive := by
  rintro ⟨v, hshape, hprimitive⟩
  cases hshape
  have hthis : "this" ∉ primitiveTypes := by decide
  exact hthis hprimitive

theorem not_isPrimitive_super (span : Span) : ¬(named "super" span).IsPrimitive := by
  rintro ⟨v, hshape, hprimitive⟩
  cases hshape
  have hsuper : "super" ∉ primitiveTypes := by decide
  exact hsuper hprimitive

theorem asVariable?_applyClosure (receiver closure : Expr) (span : Span) :
    (receiver.applyClosure closure span).asVariable? = none := by
  unfold applyClosure
  split
  · rfl
  · rfl
  · rfl
  · split
    · rfl
    · rfl
  · rfl

theorem asVariable?_applyArguments {receiver e : Expr} {arguments : Arguments} {span : Span}
    (he : receiver.applyArguments arguments span = .ok e) : e.asVariable? = none := by
  unfold applyArguments at he
  split at he
  · cases he
    rfl
  · cases he
    rfl
  · cases he
    rfl
  · cases he
    rfl
  · split at he
    · cases he
      rfl
    · split at he
      · cases he
      · cases he
        rfl
  · cases he
    rfl
  · split at he
    · cases he
      rfl
    · cases he
      rfl
  · cases he
    rfl

/-- A constant that a sign is folded into is no variable. -/
theorem asVariable?_of_foldable? {e : Expr} {c : Constant} (h : e.foldable? = some c) :
    e.asVariable? = none := by
  obtain ⟨shape, span, parenthesized⟩ := e
  cases shape with
  | name v => cases parenthesized <;> cases h
  | _ => rfl

end Expr

namespace Scope

variable {s : Scope} {m n : Node} {role : Role} {receiver e : Expr}

/-! ## Paths and commands -/

theorem asVariable?_memberShape? {object member : Expr} {generics : Option (List TypeArgument)}
    {isField : Bool} {op : Option String} {shape : ExprShape}
    (h : memberShape? object member generics isField op = some shape) (span : Span) :
    Expr.asVariable? { shape, span } = none := by
  unfold memberShape? at h
  split at h
  · cases h
    rfl
  · split at h <;> cases h <;> rfl
  · split at h <;> cases h <;> rfl
  · split at h <;> cases h <;> rfl
  · cases h

/-- No element of a path makes a name. -/
theorem asVariable?_pathElement (he : s.pathElement receiver n = .ok e) :
    e.asVariable? = none := by
  rw [pathElement] at he
  split at he
  · obtain ⟨name, _, he⟩ := exists_of_bind he
    obtain ⟨generics, _, he⟩ := exists_of_bind he
    dsimp only at he
    split at he
    · next shape hshape =>
      cases he
      exact asVariable?_memberShape? hshape _
    · cases he
  · split at he
    · obtain ⟨index, _, he⟩ := exists_of_bind he
      cases he
      rfl
    · split at he
      · obtain ⟨arguments, _, he⟩ := exists_of_bind he
        exact Expr.asVariable?_applyArguments he
      · split at he
        · obtain ⟨closure, _, he⟩ := exists_of_bind he
          cases he
          exact Expr.asVariable?_applyClosure receiver closure _
        · cases he

theorem eq_of_pathElements_of_isPrimitive {elements : List Node}
    (he : s.pathElements receiver elements = .ok e) (hprimitive : e.IsPrimitive) :
    e = receiver := by
  induction elements generalizing receiver with
  | nil =>
    cases he
    rfl
  | cons c rest ih =>
    rw [pathElements_cons] at he
    obtain ⟨x, hx, he⟩ := exists_of_bind he
    have heq := ih he
    rw [heq] at hprimitive
    exact absurd hprimitive (Expr.not_isPrimitive (asVariable?_pathElement hx))

theorem not_isPrimitive_pathElements {elements : List Node} (hreceiver : ¬receiver.IsPrimitive)
    (he : s.pathElements receiver elements = .ok e) : ¬e.IsPrimitive := by
  intro hprimitive
  rw [eq_of_pathElements_of_isPrimitive he hprimitive] at hprimitive
  exact hreceiver hprimitive

theorem not_isPrimitive_commandHead {base : Expr} {o : Option Arguments}
    (he : s.commandHead n base o = .ok e) : ¬e.IsPrimitive := by
  apply Expr.not_isPrimitive
  rw [commandHead_eq] at he
  cases hcall : base.isCall with
  | true =>
    rw [hcall, if_pos rfl] at he
    cases o with
    | none =>
      cases he
      obtain ⟨shape, span, parenthesized⟩ := e
      cases shape with
      | methodCall call => rfl
      | _ => cases hcall
    | some a => cases he
  | false =>
    rw [hcall, if_neg Bool.false_ne_true] at he
    cases he
    unfold headCall
    split
    · rfl
    · rfl
    · rfl
    · rfl

theorem not_isPrimitive_commandArgument (he : s.commandArgument receiver n = .ok e) :
    ¬e.IsPrimitive := by
  obtain ⟨c, _, he⟩ := exists_of_node he
  obtain ⟨primary, _, he⟩ := exists_of_bind he
  split at he
  · split at he
    · cases he
    · obtain ⟨a, _, he⟩ := exists_of_bind he
      cases he
      exact Expr.not_isPrimitive rfl
  · split at he
    · obtain ⟨x, hx, he⟩ := exists_of_bind he
      cases he
      have hwords := not_isPrimitive_pathElements (Expr.not_isPrimitive rfl) hx
      exact hwords
    · cases he
      exact Expr.not_isPrimitive rfl

theorem not_isPrimitive_command (he : s.command n = .ok e) : ¬e.IsPrimitive := by
  rw [command_eq] at he
  obtain ⟨c, _, he⟩ := exists_of_node he
  obtain ⟨base, _, he⟩ := exists_of_bind he
  obtain ⟨o, _, he⟩ := exists_of_bind he
  obtain ⟨head, hhead, he⟩ := exists_of_bind he
  obtain ⟨x, hx, he⟩ := exists_of_bind he
  cases he
  have hwords : Ensures ((n.nodes .commandArgument).foldlM s.commandArgument head)
      fun e => ¬e.IsPrimitive := by
    apply Ensures.foldlM
    · intro front _ word _ back hback
      exact not_isPrimitive_commandArgument hback
    · exact not_isPrimitive_commandHead hhead
  exact hwords x hx

/-! ## Operators -/

theorem asVariable?_unary (he : s.unary n = .ok e) : e.asVariable? = none := by
  obtain ⟨op, _, he⟩ := exists_of_token he
  obtain ⟨c, _, he⟩ := exists_of_node he
  obtain ⟨x, _, he⟩ := exists_of_bind he
  split at he
  · split at he
    · next hfold =>
      cases he
      exact Expr.asVariable?_of_foldable? hfold
    · cases he
      rfl
  · split at he
    · split at he
      · rw [negateConstant] at he
        split at he
        · obtain ⟨negated, _, he⟩ := exists_of_bind he
          cases he
          rfl
        · cases he
      · cases he
        rfl
    · split at he
      · cases he
        rfl
      · cases he

theorem asVariable?_binary (he : s.binary n = .ok e) : e.asVariable? = none := by
  obtain ⟨l, _, he⟩ := exists_of_node he
  obtain ⟨left, _, he⟩ := exists_of_bind he
  obtain ⟨r, _, he⟩ := exists_of_node he
  obtain ⟨right, _, he⟩ := exists_of_bind he
  split at he
  · next shape hshape =>
    cases he
    unfold binaryShape? at hshape
    split at hshape
    · cases hshape
      rfl
    · split at hshape
      · cases hshape
        rfl
      · obtain ⟨op, _, rfl⟩ := Option.map_eq_some_iff.1 hshape
        rfl
  · cases he

theorem asVariable?_stepAfter (he : s.stepAfter n = .ok e) : e.asVariable? = none := by
  obtain ⟨c, _, he⟩ := exists_of_node he
  obtain ⟨x, _, he⟩ := exists_of_bind he
  obtain ⟨op, _, he⟩ := exists_of_token he
  split at he
  · cases he
    rfl
  · cases he

theorem asVariable?_negation (he : s.negation n = .ok e) : e.asVariable? = none := by
  obtain ⟨c, _, he⟩ := exists_of_node he
  obtain ⟨x, _, he⟩ := exists_of_bind he
  obtain ⟨op, _, he⟩ := exists_of_token he
  split at he
  · cases he
    rfl
  · split at he
    · cases he
      rfl
    · cases he

theorem asVariable?_cast (he : s.cast n = .ok e) : e.asVariable? = none := by
  obtain ⟨t, _, he⟩ := exists_of_node he
  obtain ⟨type, _, he⟩ := exists_of_bind he
  obtain ⟨c, _, he⟩ := exists_of_node he
  obtain ⟨x, _, he⟩ := exists_of_bind he
  cases he
  rfl

theorem asVariable?_typeTest (he : s.typeTest n = .ok e) : e.asVariable? = none := by
  obtain ⟨l, _, he⟩ := exists_of_node he
  obtain ⟨left, _, he⟩ := exists_of_bind he
  obtain ⟨t, _, he⟩ := exists_of_node he
  obtain ⟨type, _, he⟩ := exists_of_bind he
  obtain ⟨op, _, he⟩ := exists_of_token he
  split at he
  · cases he
    rfl
  · split at he
    · cases he
      rfl
    · cases he

theorem asVariable?_conditional (he : s.conditional n = .ok e) : e.asVariable? = none := by
  obtain ⟨c, _, he⟩ := exists_of_node he
  obtain ⟨condition, _, he⟩ := exists_of_bind he
  obtain ⟨c', _, he⟩ := exists_of_node he
  obtain ⟨no, _, he⟩ := exists_of_bind he
  split at he
  · cases he
    rfl
  · obtain ⟨c'', _, he⟩ := exists_of_node he
    obtain ⟨yes, _, he⟩ := exists_of_bind he
    cases he
    rfl

theorem asVariable?_assignment (he : s.assignment n = .ok e) : e.asVariable? = none := by
  obtain ⟨l, _, he⟩ := exists_of_node he
  obtain ⟨left, _, he⟩ := exists_of_bind he
  split at he
  · obtain ⟨op, _, he⟩ := exists_of_token he
    split at he
    · obtain ⟨r, _, he⟩ := exists_of_node he
      obtain ⟨right, _, he⟩ := exists_of_bind he
      cases he
      rfl
    · cases he
  · cases he

/-! ## Other constructs -/

theorem asVariable?_literal (he : s.literal n = .ok e) : e.asVariable? = none := by
  obtain ⟨t, _, he⟩ := exists_of_token he
  obtain ⟨value, _, he⟩ := exists_of_bind he
  cases he
  rfl

theorem asVariable?_gstring (he : s.gstring n = .ok e) : e.asVariable? = none := by
  obtain ⟨first, _, he⟩ := exists_of_token he
  obtain ⟨last, _, he⟩ := exists_of_token he
  obtain ⟨values, _, he⟩ := exists_of_bind he
  cases he
  rfl

theorem asVariable?_creator (he : s.creator n = .ok e) : e.asVariable? = none := by
  obtain ⟨name, _, he⟩ := exists_of_node he
  obtain ⟨type, _, he⟩ := exists_of_bind he
  split at he
  · obtain ⟨a, _, he⟩ := exists_of_bind he
    cases he
    rfl
  · split at he
    · obtain ⟨sizes, _, he⟩ := exists_of_bind he
      cases he
      rfl
    · cases he

theorem asVariable?_list (he : s.list n = .ok e) : e.asVariable? = none := by
  obtain ⟨es, _, he⟩ := exists_of_bind he
  cases he
  rfl

theorem asVariable?_map (he : s.map n = .ok e) : e.asVariable? = none := by
  obtain ⟨ms, _, he⟩ := exists_of_bind he
  cases he
  rfl

theorem asVariable?_closure (he : s.closure n = .ok e) : e.asVariable? = none := by
  obtain ⟨parameters, _, he⟩ := exists_of_bind he
  obtain ⟨code, _, he⟩ := exists_of_bind he
  cases he
  rfl

/-! ## Names handed on -/

namespace Locates

/-- A name has the place of its token, and the node has the token. -/
theorem primitive_nameOf (hs : s.Locates m) (hn : n.IsPartOf m) (he : s.nameOf n role = .ok e) :
    n.allTokens ≠ [] ∧ e.span.Within m.span := by
  obtain ⟨t, ht, he⟩ := exists_of_token he
  cases he
  have hne : n.allTokens ≠ [] :=
    List.ne_nil_of_mem (Node.mem_allTokens_of_mem_tokens (List.mem_of_head? ht))
  exact ⟨hne, hs.span_within hn hne s.enclosing⟩

/-- What has a part with tokens has tokens, and its place is within the node. -/
theorem span_within_of_child (hs : s.Locates m) (hn : n.IsPartOf m) {c : Node}
    (hc : n.node? role = some c) (hne : c.allTokens ≠ []) :
    n.allTokens ≠ [] ∧ n.span.Within m.span := by
  have hsublist := (Node.isChildOf_of_mem_nodes (List.mem_of_head? hc)).sublist
  have hne' : n.allTokens ≠ [] := by
    intro hnil
    rw [hnil] at hsublist
    exact hne (List.sublist_nil.1 hsublist)
  exact ⟨hne', hs.span_within hn hne' _⟩

theorem primitive_path (hs : s.Locates m) (hn : n.IsPartOf m) (he : s.path n = .ok e)
    (hprimitive : e.IsPrimitive) : n.allTokens ≠ [] ∧ e.span.Within m.span := by
  obtain ⟨c, hc, he⟩ := exists_of_node he
  obtain ⟨primary, hprimary, he⟩ := exists_of_bind he
  obtain ⟨x, hx, he⟩ := exists_of_bind he
  cases he
  have hsame : x.IsPrimitive := hprimitive
  have heq := eq_of_pathElements_of_isPrimitive hx hsame
  rw [heq] at hsame
  exact hs.span_within_of_child hn hc (hs.primitive (hn.child? hc) hprimary hsame).1

theorem primitive_element (hs : s.Locates m) (hn : n.IsPartOf m) (he : s.element n = .ok e)
    (hprimitive : e.IsPrimitive) : n.allTokens ≠ [] ∧ e.span.Within m.span := by
  obtain ⟨c, hc, he⟩ := exists_of_node he
  obtain ⟨x, hx, he⟩ := exists_of_bind he
  split at he
  · cases he
    exact absurd hprimitive (Expr.not_isPrimitive rfl)
  · cases he
    have hsame : x.IsPrimitive := hprimitive
    exact hs.span_within_of_child hn hc (hs.primitive (hn.child? hc) hx hsame).1

theorem primitive_parenthesized (hs : s.Locates m) (hn : n.IsPartOf m)
    (he : s.parenthesized n = .ok e) (hprimitive : e.IsPrimitive) :
    n.allTokens ≠ [] ∧ e.span.Within m.span := by
  obtain ⟨c, hc, he⟩ := exists_of_node he
  obtain ⟨x, hx, he⟩ := exists_of_bind he
  cases he
  have hsame : x.IsPrimitive := hprimitive
  exact hs.span_within_of_child hn hc (hs.primitive (hn.child? hc) hx hsame).1

/-- An expression that is the name of a primitive type has a node with tokens, and its place. -/
theorem primitive_expression (hs : s.Locates m) (hn : n.IsPartOf m)
    (he : s.expression n = .ok e) (hprimitive : e.IsPrimitive) :
    n.allTokens ≠ [] ∧ e.span.Within m.span := by
  have hname : e.asVariable? ≠ none := fun h => Expr.not_isPrimitive h hprimitive
  rw [Scope.expression] at he
  split at he
  · exact hs.primitive_path hn he hprimitive
  · exact absurd hprimitive (not_isPrimitive_command he)
  · exact hs.primitive_element hn he hprimitive
  · exact absurd (asVariable?_stepAfter he) hname
  · exact absurd (asVariable?_unary he) hname
  · exact absurd (asVariable?_negation he) hname
  · exact absurd (asVariable?_cast he) hname
  · exact absurd (asVariable?_binary he) hname
  · exact absurd (asVariable?_typeTest he) hname
  · exact absurd (asVariable?_conditional he) hname
  · exact absurd (asVariable?_assignment he) hname
  · exact hs.primitive_nameOf hn he
  · exact absurd (asVariable?_literal he) hname
  · exact absurd (asVariable?_gstring he) hname
  · exact absurd (asVariable?_creator he) hname
  · cases he
    exact absurd hprimitive (Expr.not_isPrimitive_self _)
  · cases he
    exact absurd hprimitive (Expr.not_isPrimitive_super _)
  · exact hs.primitive_parenthesized hn he hprimitive
  · exact absurd (asVariable?_list he) hname
  · exact absurd (asVariable?_map he) hname
  · exact hs.primitive_nameOf hn he
  · exact absurd (asVariable?_closure he) hname
  · cases he

end Locates

end Scope

end GroovyLowering
