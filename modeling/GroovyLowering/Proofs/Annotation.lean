import GroovyLowering.Lower.Level
import GroovyLowering.Proofs.Equations
import GroovyLowering.Proofs.Step
import GroovyLowering.Tree.Construct.Declaration
import Mathlib.Data.List.Induction
import Mathlib.Data.List.Nodup

/-!
# Members of annotations

An annotation is written with pairs of a name and a value, or with one value alone.  Its members are
looked at one after the other.  The value of a pair is lowered first, and then its name is compared
with the names in front of it.  So an annotation in which a name comes twice is refused at the first
name that is one of those in front of it, unless a value up to there is refused earlier.

A value may hold annotations again, in arrays of any depth.  What an annotation is read as is the
relation `Scope.AnnotationReads`, which asks for distinct names at every depth, and the name it is
refused at is `Scope.AnnotationRepeats`.  An annotation with all its parts, whose expressions lower,
has one or the other (`Scope.IsAnnotation.outcome`).

The two are put together in `Scope.annotation_members`.
-/

namespace GroovyLowering

/-- Where values are not distinct, there is a first element whose value is one of those in front of
it. -/
theorem exists_first_repeated {α β : Type} (f : α → β) {xs : List α} (h : ¬(xs.map f).Nodup) :
    ∃ before x after, xs = before ++ x :: after ∧ (before.map f).Nodup ∧ f x ∈ before.map f := by
  induction xs using List.reverseRecOn with
  | nil => exact absurd List.nodup_nil h
  | append_singleton xs x ih =>
    -- The last element is the first repeated one only if what is in front of it is distinct.
    by_cases hxs : (xs.map f).Nodup
    · refine ⟨xs, x, [], rfl, hxs, ?_⟩
      by_contra hx
      rw [List.map_append, List.map_singleton, ← List.concat_eq_append] at h
      exact h (hxs.concat hx)
    · obtain ⟨before, y, after, rfl, hbefore, hy⟩ := ih hxs
      exact ⟨before, y, after ++ [x], by rw [List.append_assoc, List.cons_append], hbefore, hy⟩

/-! ## Adding members -/

/-- A pair of an annotation, with its value lowered. -/
structure WrittenMember where
  /-- The token of the name. -/
  token : Token
  /-- The value. -/
  value : Expr

/-- The name of a pair. -/
def WrittenMember.name (m : WrittenMember) : String := m.token.text

/-- The member that a pair makes. -/
def WrittenMember.member (m : WrittenMember) : String × Expr := (m.name, m.value)

/-- The error at a name that comes a second time. -/
def CompileError.repeated (t : Token) : CompileError := .invalid (.duplicateMember t.text) t.span

/-- Add the member of a pair behind those in front of it, unless one of them has its name. -/
def addMember (members : List (String × Expr)) (m : WrittenMember) :
    Lowered (List (String × Expr)) :=
  if members.any fun other => other.1 == m.name then .error (.repeated m.token)
  else .ok (members ++ [m.member])

section Members

variable {members : List (String × Expr)} {m : WrittenMember} {written : List WrittenMember}

theorem addMember_of_mem (h : m.name ∈ members.map Prod.fst) :
    addMember members m = .error (.repeated m.token) := by
  obtain ⟨other, hother, hname⟩ := List.mem_map.1 h
  have hany : (members.any fun other => other.1 == m.name) = true :=
    List.any_eq_true.2 ⟨other, hother, beq_iff_eq.2 hname⟩
  rw [addMember, if_pos hany]

theorem addMember_of_not_mem (h : m.name ∉ members.map Prod.fst) :
    addMember members m = .ok (members ++ [m.member]) := by
  refine if_neg fun hany => h ?_
  obtain ⟨other, hother, hname⟩ := List.any_eq_true.1 hany
  exact List.mem_map.2 ⟨other, hother, beq_iff_eq.1 hname⟩

theorem map_fst_member (written : List WrittenMember) :
    (written.map WrittenMember.member).map Prod.fst = written.map WrittenMember.name := by
  rw [List.map_map]
  rfl

/-- Pairs with distinct names are all kept, in order. -/
theorem foldlM_addMember (h : (written.map WrittenMember.name).Nodup) :
    written.foldlM addMember [] = .ok (written.map WrittenMember.member) := by
  induction written using List.reverseRecOn with
  | nil => rfl
  | append_singleton written m ih =>
    rw [List.map_append, List.map_singleton, ← List.concat_eq_append, List.nodup_concat] at h
    rw [List.foldlM_append, Lowered.bind_of_ok (ih h.2), List.foldlM_cons,
      addMember_of_not_mem (by rw [map_fst_member]; exact h.1), List.map_append]
    rfl

/-- Pairs are refused at the first name that is one of those in front of it. -/
theorem foldlM_addMember_repeated {before after : List WrittenMember}
    (hbefore : (before.map WrittenMember.name).Nodup)
    (hm : m.name ∈ before.map WrittenMember.name) :
    (before ++ m :: after).foldlM addMember [] = .error (.repeated m.token) := by
  rw [List.foldlM_append, Lowered.bind_of_ok (foldlM_addMember hbefore), List.foldlM_cons,
    addMember_of_mem (by rwa [map_fst_member])]
  rfl

end Members

namespace Scope

variable {s : Scope} {n q v : Node} {ps : List Node} {written : List WrittenMember}

/-- A pair has a name, and its value lowers. -/
def PairLowers (s : Scope) (p : Node) (m : WrittenMember) : Prop :=
  p.token? .name = some m.token ∧ ∃ v, p.node? .value = some v ∧ s.elementValue v = .ok m.value

theorem PairLowers.annotationMember_eq {p : Node} {m : WrittenMember} (h : s.PairLowers p m)
    (members : List (String × Expr)) : s.annotationMember members p = addMember members m := by
  obtain ⟨hname, v, hv, hvalue⟩ := h
  rw [annotationMember, bind_token hname, hv]
  exact Lowered.bind_of_ok hvalue _

theorem annotationMember_eq_error {p : Node} {t : Token} {c : CompileError}
    (hname : p.token? .name = some t) (hv : p.node? .value = some v)
    (hvalue : s.elementValue v = .error c) (members : List (String × Expr)) :
    s.annotationMember members p = .error c := by
  rw [annotationMember, bind_token hname, hv]
  exact congrArg (· >>= _) hvalue

theorem foldlM_annotationMember (h : List.Forall₂ s.PairLowers ps written)
    (members : List (String × Expr)) :
    ps.foldlM s.annotationMember members = written.foldlM addMember members := by
  induction h generalizing members with
  | nil => rfl
  | cons hp _ ih =>
    rw [List.foldlM_cons, List.foldlM_cons, hp.annotationMember_eq]
    exact congrArg (addMember members _ >>= ·) (funext ih)

/-! ## One annotation -/

/-- Pairs with distinct names are the members of the annotation, in order. -/
theorem annotationUse_of_pairs (hname : n.node? .name = some q) (halone : n.node? .value = none)
    (hpairs : List.Forall₂ s.PairLowers (n.nodes .pair) written)
    (hdistinct : (written.map WrittenMember.name).Nodup) :
    s.annotationUse n =
      .ok ⟨q.dottedName, written.map WrittenMember.member, n.span⟩ := by
  rw [annotationUse_eq, bind_node hname, foldlM_annotationMember hpairs,
    foldlM_addMember hdistinct, halone]
  rfl

/-- A value alone is the member `value`. -/
theorem annotationUse_of_value (hname : n.node? .name = some q) (halone : n.nodes .pair = [])
    (hv : n.node? .value = some v) :
    s.annotationUse n =
      s.elementValue v >>= fun e => .ok ⟨q.dottedName, [("value", e)], n.span⟩ := by
  rw [annotationUse_eq, bind_node hname, halone, hv]
  rfl

theorem annotationUse_eq_error {c : CompileError} (hname : n.node? .name = some q)
    (h : (n.nodes .pair).foldlM s.annotationMember [] = .error c) :
    s.annotationUse n = .error c := by
  rw [annotationUse_eq, bind_node hname, h]
  rfl

/-- An annotation is refused at the first name that is one of those in front of it. -/
theorem annotationUse_of_repeated {front back : List Node} {before after : List WrittenMember}
    {m : WrittenMember} (hname : n.node? .name = some q) (hn : n.nodes .pair = front ++ back)
    (hpairs : List.Forall₂ s.PairLowers front (before ++ m :: after))
    (hbefore : (before.map WrittenMember.name).Nodup)
    (hm : m.name ∈ before.map WrittenMember.name) :
    s.annotationUse n = .error (.repeated m.token) := by
  refine annotationUse_eq_error hname ?_
  rw [hn, List.foldlM_append, foldlM_annotationMember hpairs,
    foldlM_addMember_repeated hbefore hm]
  rfl

/-! ## Annotations at every depth -/

mutual

/-- What an annotation is read as, where no name comes twice at any depth. -/
inductive AnnotationReads (s : Scope) : Node → Annotation → Prop where
  /-- Pairs are the members, in order. -/
  | pairs {n q : Node} {written : List WrittenMember} (name : n.node? .name = some q)
      (alone : n.node? .value = none)
      (pairs : List.Forall₂ (PairReads s) (n.nodes .pair) written)
      (distinct : (written.map WrittenMember.name).Nodup) :
      AnnotationReads s n ⟨q.dottedName, written.map WrittenMember.member, n.span⟩
  /-- A value alone is the member `value`. -/
  | value {n q v : Node} {e : Expr} (name : n.node? .name = some q) (alone : n.nodes .pair = [])
      (value : n.node? .value = some v) (reads : ValueReads s v e) :
      AnnotationReads s n ⟨q.dottedName, [("value", e)], n.span⟩

/-- What a pair is read as. -/
inductive PairReads (s : Scope) : Node → WrittenMember → Prop where
  /-- A pair has a name and a value. -/
  | mk {p v : Node} {t : Token} {e : Expr} (name : p.token? .name = some t)
      (value : p.node? .value = some v) (reads : ValueReads s v e) : PairReads s p ⟨t, e⟩

/-- What the value of a member is read as. -/
inductive ValueReads (s : Scope) : Node → Expr → Prop where
  /-- An expression is lowered. -/
  | expression {n c : Node} {e : Expr} (expression : n.node? .expression = some c)
      (lowers : s.expr c = .ok e) : ValueReads s n e
  /-- An annotation is a constant of its own. -/
  | annotationUse {n c : Node} {a : Annotation} (noExpression : n.node? .expression = none)
      (use : n.node? .annotationUse = some c) (reads : AnnotationReads s c a) :
      ValueReads s n { shape := .annotationUse a, span := n.span }
  /-- The values of an array are kept in order. -/
  | array {n c : Node} {elements : List Expr} (noExpression : n.node? .expression = none)
      (noUse : n.node? .annotationUse = none) (array : n.node? .array = some c)
      (reads : List.Forall₂ (ValueReads s) (c.nodes .element) elements) :
      ValueReads s n { shape := .list elements false, span := c.span }

end

mutual

/-- The name that an annotation is refused at because it comes a second time. -/
inductive AnnotationRepeats (s : Scope) : Node → Token → Prop where
  /-- It is the first name that is one of those in front of it. -/
  | name {n q : Node} {front back : List Node} {written : List WrittenMember} {m : WrittenMember}
      (name : n.node? .name = some q) (pairs : n.nodes .pair = front ++ back)
      (lowers : List.Forall₂ s.PairLowers front (written ++ [m]))
      (distinct : (written.map WrittenMember.name).Nodup)
      (repeated : m.name ∈ written.map WrittenMember.name) : AnnotationRepeats s n m.token
  /-- It is in the value of a pair, behind pairs with distinct names. -/
  | pair {n q p v : Node} {t t' : Token} {front back : List Node} {written : List WrittenMember}
      (name : n.node? .name = some q) (pairs : n.nodes .pair = front ++ p :: back)
      (lowers : List.Forall₂ s.PairLowers front written)
      (distinct : (written.map WrittenMember.name).Nodup) (pairName : p.token? .name = some t')
      (value : p.node? .value = some v) (inside : ValueRepeats s v t) : AnnotationRepeats s n t
  /-- It is in the value that stands alone. -/
  | value {n q v : Node} {t : Token} (name : n.node? .name = some q) (alone : n.nodes .pair = [])
      (value : n.node? .value = some v) (inside : ValueRepeats s v t) : AnnotationRepeats s n t

/-- The name that the value of a member is refused at because it comes a second time. -/
inductive ValueRepeats (s : Scope) : Node → Token → Prop where
  /-- It is in the annotation that is the value. -/
  | annotationUse {n c : Node} {t : Token} (noExpression : n.node? .expression = none)
      (use : n.node? .annotationUse = some c) (inside : AnnotationRepeats s c t) :
      ValueRepeats s n t
  /-- It is in a value of the array, behind values that lower. -/
  | array {n c d : Node} {t : Token} {front back : List Node}
      (noExpression : n.node? .expression = none) (noUse : n.node? .annotationUse = none)
      (array : n.node? .array = some c) (elements : c.nodes .element = front ++ d :: back)
      (lower : ∀ x ∈ front, ∃ e, s.elementValue x = .ok e) (inside : ValueRepeats s d t) :
      ValueRepeats s n t

end

mutual

/-- An annotation in either form, with all its parts and with expressions that lower, at every
depth. -/
inductive IsAnnotation (s : Scope) : Node → Prop where
  /-- Pairs of names and values. -/
  | pairs {n q : Node} (name : n.node? .name = some q) (alone : n.node? .value = none)
      (pairs : ∀ p ∈ n.nodes .pair, IsPair s p) : IsAnnotation s n
  /-- A value alone. -/
  | value {n q v : Node} (name : n.node? .name = some q) (alone : n.nodes .pair = [])
      (value : n.node? .value = some v) (valid : IsValue s v) : IsAnnotation s n

/-- A pair of a name and a value with all its parts. -/
inductive IsPair (s : Scope) : Node → Prop where
  /-- A pair has a name and a value. -/
  | mk {p v : Node} {t : Token} (name : p.token? .name = some t)
      (value : p.node? .value = some v) (valid : IsValue s v) : IsPair s p

/-- The value of a member with all its parts. -/
inductive IsValue (s : Scope) : Node → Prop where
  /-- An expression that lowers. -/
  | expression {n c : Node} {e : Expr} (expression : n.node? .expression = some c)
      (lowers : s.expr c = .ok e) : IsValue s n
  /-- An annotation. -/
  | annotationUse {n c : Node} (noExpression : n.node? .expression = none)
      (use : n.node? .annotationUse = some c) (valid : IsAnnotation s c) : IsValue s n
  /-- An array of values. -/
  | array {n c : Node} (noExpression : n.node? .expression = none)
      (noUse : n.node? .annotationUse = none) (array : n.node? .array = some c)
      (valid : ∀ d ∈ c.nodes .element, IsValue s d) : IsValue s n

end

/-! ## What is read is what is lowered -/

theorem elementValue_of_expression {c : Node} (h : n.node? .expression = some c) :
    s.elementValue n = s.expr c := by
  rw [elementValue_eq, h]

theorem elementValue_of_annotationUse {c : Node} (h : n.node? .expression = none)
    (hc : n.node? .annotationUse = some c) :
    s.elementValue n =
      s.annotationUse c >>= fun a => .ok { shape := .annotationUse a, span := n.span } := by
  rw [elementValue_eq, h, hc]
  rfl

theorem elementValue_of_array {c : Node} (h : n.node? .expression = none)
    (huse : n.node? .annotationUse = none) (hc : n.node? .array = some c) :
    s.elementValue n =
      (c.nodes .element).mapM s.elementValue >>= fun elements =>
        .ok { shape := .list elements false, span := c.span } := by
  rw [elementValue_eq, h, huse, hc]
  rfl

-- The recursion is on the size of the tree, since the pairs and the elements are in a `Forall₂`.
mutual

theorem AnnotationReads.lowers {n : Node} {a : Annotation} (h : s.AnnotationReads n a) :
    s.annotationUse n = .ok a := by
  cases h with
  | pairs name alone pairs distinct =>
    refine annotationUse_of_pairs name alone ?_ distinct
    refine ((List.forall₂_and_left _ _).2 ⟨fun p hp => hp, pairs⟩).imp fun p m hpm => ?_
    obtain ⟨hp, name, value, reads⟩ := hpm
    have := Nat.lt_trans (Node.size_lt_of_node? value) (Node.size_lt_of_mem_nodes hp)
    exact ⟨name, _, value, reads.lowers⟩
  | value name alone value reads =>
    have := Node.size_lt_of_node? value
    rw [annotationUse_of_value name alone value, Lowered.bind_of_ok reads.lowers]
termination_by n.size

theorem ValueReads.lowers {n : Node} {e : Expr} (h : s.ValueReads n e) :
    s.elementValue n = .ok e := by
  cases h with
  | expression expression lowers => rw [elementValue_of_expression expression, lowers]
  | annotationUse noExpression use reads =>
    have := Node.size_lt_of_node? use
    rw [elementValue_of_annotationUse noExpression use, Lowered.bind_of_ok reads.lowers]
  | array noExpression noUse array reads =>
    rw [elementValue_of_array noExpression noUse array]
    refine Lowered.bind_of_ok (Lowered.mapM_of_forall₂ ?_) _
    refine ((List.forall₂_and_left _ _).2 ⟨fun d hd => hd, reads⟩).imp fun d e hde => ?_
    have := Nat.lt_trans (Node.size_lt_of_mem_nodes hde.1) (Node.size_lt_of_node? array)
    exact hde.2.lowers
termination_by n.size

end

theorem PairReads.lowers {p : Node} {m : WrittenMember} (h : s.PairReads p m) :
    s.PairLowers p m := by
  obtain ⟨name, value, reads⟩ := h
  exact ⟨name, _, value, reads.lowers⟩

mutual

theorem AnnotationRepeats.refused {n : Node} {t : Token} :
    s.AnnotationRepeats n t → s.annotationUse n = .error (.repeated t)
  | .name name pairs lowers distinct repeated =>
    annotationUse_of_repeated name pairs lowers distinct repeated
  | .pair name pairs lowers distinct pairName value inside => by
    refine annotationUse_eq_error name ?_
    rw [pairs, List.foldlM_append, foldlM_annotationMember lowers,
      Lowered.bind_of_ok (foldlM_addMember distinct), List.foldlM_cons,
      annotationMember_eq_error pairName value inside.refused]
    rfl
  | .value name alone value inside => by
    rw [annotationUse_of_value name alone value, inside.refused]
    rfl

theorem ValueRepeats.refused {n : Node} {t : Token} :
    s.ValueRepeats n t → s.elementValue n = .error (.repeated t)
  | .annotationUse noExpression use inside => by
    rw [elementValue_of_annotationUse noExpression use, inside.refused]
    rfl
  | .array noExpression noUse array elements lower inside => by
    rw [elementValue_of_array noExpression noUse array, elements,
      Lowered.mapM_eq_error lower inside.refused]
    rfl

end

/-! ## One or the other -/

/-- Where all pairs up to a place lower, but not with distinct names, one of the names repeats. -/
theorem exists_annotationRepeats {front back : List Node} (hname : n.node? .name = some q)
    (hn : n.nodes .pair = front ++ back) (hpairs : List.Forall₂ s.PairLowers front written)
    (h : ¬(written.map WrittenMember.name).Nodup) : ∃ t, s.AnnotationRepeats n t := by
  obtain ⟨before, m, after, rfl, hbefore, hm⟩ := exists_first_repeated WrittenMember.name h
  have hsplit : before ++ m :: after = (before ++ [m]) ++ after := by
    rw [List.append_assoc, List.singleton_append]
  rw [hsplit] at hpairs
  have hfront := List.forall₂_take_append _ _ _ hpairs
  rw [← List.take_append_drop (before ++ [m]).length front, List.append_assoc] at hn
  exact ⟨m.token, .name hname hn hfront hbefore hm⟩

mutual

theorem IsAnnotation.outcome {n : Node} :
    s.IsAnnotation n → (∃ a, s.AnnotationReads n a) ∨ ∃ t, s.AnnotationRepeats n t
  | .pairs name alone pairs => by
    rcases forall_or_exists_first fun p hp => (pairs p hp).outcome with
      hall | ⟨front, p, back, hn, hfront, t, v, t', pairName, value, inside⟩
    · obtain ⟨written, hwritten⟩ := exists_forall₂ hall
      by_cases hdistinct : (written.map WrittenMember.name).Nodup
      · exact .inl ⟨_, .pairs name alone hwritten hdistinct⟩
      · refine .inr (exists_annotationRepeats name (List.append_nil _).symm ?_ hdistinct)
        exact hwritten.imp fun p m => PairReads.lowers
    · obtain ⟨written, hwritten⟩ := exists_forall₂ hfront
      -- A name that repeats in front of the value is found before the value is looked at.
      have hlowers := hwritten.imp fun p m => PairReads.lowers
      by_cases hdistinct : (written.map WrittenMember.name).Nodup
      · exact .inr ⟨t', .pair name hn hlowers hdistinct pairName value inside⟩
      · exact .inr (exists_annotationRepeats name hn hlowers hdistinct)
  | .value name alone value valid => by
    rcases valid.outcome with ⟨e, he⟩ | ⟨t, ht⟩
    · exact .inl ⟨_, .value name alone value he⟩
    · exact .inr ⟨t, .value name alone value ht⟩

theorem IsPair.outcome {p : Node} :
    s.IsPair p → (∃ m, s.PairReads p m) ∨
      ∃ t v t', p.token? .name = some t ∧ p.node? .value = some v ∧ s.ValueRepeats v t'
  | .mk name value valid => by
    rcases valid.outcome with ⟨e, he⟩ | ⟨t, ht⟩
    · exact .inl ⟨_, .mk name value he⟩
    · exact .inr ⟨_, _, t, name, value, ht⟩

theorem IsValue.outcome {n : Node} :
    s.IsValue n → (∃ e, s.ValueReads n e) ∨ ∃ t, s.ValueRepeats n t
  | .expression expression lowers => .inl ⟨_, .expression expression lowers⟩
  | .annotationUse noExpression use valid => by
    rcases valid.outcome with ⟨a, ha⟩ | ⟨t, ht⟩
    · exact .inl ⟨_, .annotationUse noExpression use ha⟩
    · exact .inr ⟨t, .annotationUse noExpression use ht⟩
  | .array noExpression noUse array valid => by
    rcases forall_or_exists_first fun d hd => (valid d hd).outcome with
      hall | ⟨front, d, back, hn, hfront, t, inside⟩
    · obtain ⟨elements, helements⟩ := exists_forall₂ hall
      exact .inl ⟨_, .array noExpression noUse array helements⟩
    · refine .inr ⟨t, .array noExpression noUse array hn (fun x hx => ?_) inside⟩
      obtain ⟨e, he⟩ := hfront x hx
      exact ⟨e, he.lowers⟩

end

/-! ## All together -/

/-- **The members of an annotation are kept in order, and a name that comes twice is refused.**  An
annotation with pairs whose values lower is lowered exactly if their names are distinct.  Its
members are then the pairs, in order.  If not, the error is at the first name that is one of those
in front of it.  A value alone, if it lowers, is the one member `value`.  With annotations in its
values at any depth, an annotation that has all its parts is lowered to what it is read as, or else
refused at the name that repeats. -/
theorem annotation_members (s : Scope) (n q : Node) (hname : n.node? .name = some q) :
    (∀ written, n.node? .value = none → List.Forall₂ s.PairLowers (n.nodes .pair) written →
      ((∃ a, s.annotationUse n = .ok a) ↔ (written.map WrittenMember.name).Nodup) ∧
      (∀ a, s.annotationUse n = .ok a →
        a = ⟨q.dottedName, written.map WrittenMember.member, n.span⟩) ∧
      (¬(written.map WrittenMember.name).Nodup → ∃ before m after,
        written = before ++ m :: after ∧ (before.map WrittenMember.name).Nodup ∧
        m.name ∈ before.map WrittenMember.name ∧
        s.annotationUse n = .error (.invalid (.duplicateMember m.name) m.token.span))) ∧
    (∀ v, n.nodes .pair = [] → n.node? .value = some v → ∀ a,
      s.annotationUse n = .ok a ↔
        ∃ e, s.elementValue v = .ok e ∧ a = ⟨q.dottedName, [("value", e)], n.span⟩) ∧
    (s.IsAnnotation n →
      (∃ a, s.AnnotationReads n a ∧ s.annotationUse n = .ok a) ∨
      ∃ t, s.AnnotationRepeats n t ∧
        s.annotationUse n = .error (.invalid (.duplicateMember t.text) t.span)) := by
  refine ⟨fun written halone hpairs => ?_, fun v halone hv a => ?_, fun hn => ?_⟩
  · have hkept := annotationUse_of_pairs hname halone hpairs
    have hrefused : ¬(written.map WrittenMember.name).Nodup → ∃ before m after,
        written = before ++ m :: after ∧ (before.map WrittenMember.name).Nodup ∧
        m.name ∈ before.map WrittenMember.name ∧
        s.annotationUse n = .error (.invalid (.duplicateMember m.name) m.token.span) := by
      intro hrepeated
      obtain ⟨before, m, after, rfl, hbefore, hm⟩ :=
        exists_first_repeated WrittenMember.name hrepeated
      exact ⟨before, m, after, rfl, hbefore, hm,
        annotationUse_of_repeated hname (List.append_nil _).symm hpairs hbefore hm⟩
    have hdistinct : ∀ a, s.annotationUse n = .ok a → (written.map WrittenMember.name).Nodup := by
      intro a ha
      by_contra hrepeated
      obtain ⟨before, m, after, -, -, -, herror⟩ := hrefused hrepeated
      cases ha.symm.trans herror
    refine ⟨⟨fun ⟨a, ha⟩ => hdistinct a ha, fun h => ⟨_, hkept h⟩⟩, fun a ha => ?_, hrefused⟩
    exact Except.ok.inj (ha.symm.trans (hkept (hdistinct a ha)))
  · rw [annotationUse_of_value hname halone hv, Lowered.bind_eq_ok_iff]
    simp only [Except.ok.injEq, eq_comm]
  · exact hn.outcome.imp (fun ⟨a, ha⟩ => ⟨a, ha, ha.lowers⟩) fun ⟨t, ht⟩ => ⟨t, ht, ht.refused⟩

/-- The annotations `@A(x = 1, y = 1)` and `@A(1)` are lowered, `@A(x = 1, y = 1, x = 1)` is refused
at the second `x`, and `@A(x = {1, @A(y = 1, y = 1)}, x = 1)` at the second `y`. -/
theorem annotation_members_nested :
    let s := outermost 512
    let name : Node := ⟨.qualifiedClassName, [(.part, .token ⟨.identifier, "A", 1, 1⟩)]⟩
    let use := fun pairs : List Node =>
      (⟨.annotationUse, (.name, .node name) :: pairs.map fun p => (.pair, .node p)⟩ : Node)
    let pair := fun (t : Token) (v : Node) =>
      (⟨.elementValuePair, [(.name, .token t), (.value, .node v)]⟩ : Node)
    let one := Production.valueExpression (Production.integer "1")
    let x : Token := ⟨.identifier, "x", 1, 3⟩
    let y : Token := ⟨.identifier, "y", 1, 15⟩
    let x' : Token := ⟨.identifier, "x", 1, 30⟩
    let y' : Token := ⟨.identifier, "y", 1, 22⟩
    let inside := Production.valueArray
      [one, Production.valueAnnotationUse (use [pair y one, pair y' one])]
    let kept := use [pair x one, pair y one]
    let single : Node := ⟨.annotationUse, [(.name, .node name), (.value, .node one)]⟩
    let repeated := use [pair x one, pair y one, pair x' one]
    let nested := use [pair x inside, pair x' one]
    (∃ e, s.elementValue one = .ok e ∧
      s.annotationUse kept = .ok ⟨"A", [("x", e), ("y", e)], kept.span⟩ ∧
      s.annotationUse single = .ok ⟨"A", [("value", e)], single.span⟩) ∧
    s.annotationUse repeated = .error (.invalid (.duplicateMember "x") x'.span) ∧
    ∃ t, s.AnnotationRepeats nested t ∧ t.text = "y" ∧ t.span = y'.span := by
  intro s name use pair one x y x' y' inside kept single repeated nested
  obtain ⟨e, he, -⟩ := Lowered.exists_of_any (x := s.elementValue one) (p := fun _ => true)
    (by decide +kernel)
  have hexpression : one.node? .expression = some (Production.integer "1") := rfl
  have hone : s.IsValue one :=
    .expression hexpression ((elementValue_of_expression hexpression).symm.trans he)
  have hpair : ∀ t, s.PairLowers (pair t one) ⟨t, e⟩ := fun t => ⟨rfl, one, rfl, he⟩
  refine ⟨⟨e, he, ?_, ?_⟩, ?_, ?_⟩
  · have hpairs : List.Forall₂ s.PairLowers (kept.nodes .pair) [⟨x, e⟩, ⟨y, e⟩] :=
      .cons (hpair x) (.cons (hpair y) .nil)
    obtain ⟨hiff, heq, -⟩ := (annotation_members s kept name rfl).1 _ rfl hpairs
    obtain ⟨a, ha⟩ := hiff.2 (show ["x", "y"].Nodup by decide)
    rw [ha, heq a ha]
    rfl
  · exact ((annotation_members s single name rfl).2.1 one rfl rfl _).2 ⟨e, he, rfl⟩
  · have hpairs : List.Forall₂ s.PairLowers (repeated.nodes .pair) [⟨x, e⟩, ⟨y, e⟩, ⟨x', e⟩] :=
      .cons (hpair x) (.cons (hpair y) (.cons (hpair x') .nil))
    obtain ⟨-, -, hrefused⟩ := (annotation_members s repeated name rfl).1 _ rfl hpairs
    obtain ⟨before, m, after, hsplit, -, hm, herror⟩ :=
      hrefused (show ¬["x", "y", "x"].Nodup by decide)
    rcases before with _ | ⟨m₁, _ | ⟨m₂, _ | ⟨m₃, rest⟩⟩⟩
    · cases hm
    · cases hsplit
      exact absurd hm (show "y" ∉ ["x"] by decide)
    · cases hsplit
      exact herror
    · simp at hsplit
  · have huse : s.IsAnnotation (use [pair y one, pair y' one]) := by
      refine .pairs (q := name) rfl rfl ?_
      exact List.forall_mem_cons.2
        ⟨.mk rfl rfl hone, List.forall_mem_singleton.2 (.mk rfl rfl hone)⟩
    have hinside : s.IsValue inside := by
      refine .array rfl rfl rfl ?_
      exact List.forall_mem_cons.2
        ⟨hone, List.forall_mem_singleton.2 (.annotationUse rfl rfl huse)⟩
    have hnested : s.IsAnnotation nested := by
      refine .pairs (q := name) rfl rfl ?_
      exact List.forall_mem_cons.2
        ⟨.mk rfl rfl hinside, List.forall_mem_singleton.2 (.mk rfl rfl hone)⟩
    have herror : (match s.annotationUse nested with
        | .error c => c == .repeated y'
        | .ok _ => false) = true := by decide +kernel
    rcases (annotation_members s nested name rfl).2.2 hnested with ⟨a, -, ha⟩ | ⟨t, ht, hrefused⟩
    · rw [ha] at herror
      cases herror
    · rw [hrefused] at herror
      obtain ⟨htext, hspan⟩ := CompileError.invalid.inj (beq_iff_eq.1 herror)
      exact ⟨t, ht, Complaint.duplicateMember.inj htext, hspan⟩

end Scope

end GroovyLowering
