import GroovyLowering.Lower.Expression
import GroovyLowering.Proofs.Invariant.Block

/-!
# Expressions keep an invariant

One theorem per construct, as for statement lists.  An expression is lowered by a scope with one
level less than what lowers it, so its budget is by one larger than the one that covers its node.
A list takes this one, and so do the subscripts of a path; every other construct could do without.

A subscript is the one expression that does not stand as an operand: several indices stand in a
list that only a subscript admits (`subscript`).  An operator that assigns comes from the node of
an assignment, whose target is checked, or from the node of the operator itself, where it is not.
-/

namespace GroovyLowering

open Lowered (Ensures exists_of_bind exists_of_mem_mapM)

namespace Scope.Maintains

open Invariant

variable {I : Invariant} {s : Scope} {d k : Nat} {n : Node} {role : Role} {e receiver : Expr}

/-! ## Arguments and subscripts -/

theorem element (hs : s.Maintains I d) (hn : I.Covers d k n) (he : s.element n = .ok e) :
    I.Sound k e := by
  obtain ⟨c, x, hx, he⟩ := hs.exists_of_operand hn he
  split at he
  · cases he
    exact sound rfl rfl trivial (all_singleton.2 hx)
  · cases he
    exact hx.withSpan _

theorem elements (hs : s.Maintains I d) (hn : I.Covers d k n) {es : List Expr}
    (hes : s.elements n = .ok es) : ∀ e ∈ es, I.Sound k e := by
  intro e he
  obtain ⟨c, hc, hstep⟩ := exists_of_mem_mapM hes he
  exact hs.element (hn.child hc) hstep

theorem key (hs : s.Maintains I d) (hn : I.Covers d k n) (he : s.key n = .ok e) :
    I.Sound k e := by
  rw [Scope.key] at he
  split at he
  · cases he
    exact sound_symbol I k _ _
  · obtain ⟨c, x, hx, he⟩ := hs.exists_of_operand hn he
    cases he
    exact hx.asKey.withSpan _

theorem mapEntry (hs : s.Maintains I d) (hn : I.Covers d k n) {m : MapEntry}
    (hm : s.mapEntry n = .ok m) : I.All k m.parts := by
  obtain ⟨c, value, hvalue, hm⟩ := hs.exists_of_operand hn hm
  split at hm
  · cases hm
    have hkey : I.Sound k { shape := .spreadMap value, span := n.span } :=
      sound rfl rfl trivial (all_singleton.2 hvalue)
    exact all_pair.2 ⟨hkey, hvalue⟩
  · obtain ⟨label, hlabel, hm⟩ := exists_of_node hm
    obtain ⟨key, hkey, hm⟩ := exists_of_bind hm
    cases hm
    exact all_pair.2 ⟨hs.key (hn.child? hlabel) hkey, hvalue⟩

theorem mapEntries (hs : s.Maintains I d) (hn : I.Covers d k n) {ms : List MapEntry}
    (hms : s.mapEntries n = .ok ms) : I.All k (ms.flatMap MapEntry.parts) := by
  refine all_flatMap.2 ?_
  intro m hm
  obtain ⟨c, hc, hstep⟩ := exists_of_mem_mapM hms hm
  exact hs.mapEntry (hn.child hc) hstep

theorem argumentList (hs : s.Maintains I d) (hn : I.Covers d k n) {a : Arguments}
    (ha : s.argumentList n = .ok a) : I.All k a.parts := by
  rw [Scope.argumentList] at ha
  split at ha
  · obtain ⟨ms, hms, ha⟩ := exists_of_bind ha
    cases ha
    exact hs.mapEntries hn hms
  · obtain ⟨es, hes, ha⟩ := exists_of_bind ha
    cases ha
    exact all_map.2 (hs.elements hn hes)

theorem argumentList? (hs : s.Maintains I d) (hn : I.Covers d k n) {o : Option Arguments}
    (ho : s.argumentList? n = .ok o) : ∀ a ∈ o, I.All k a.parts := by
  rw [Scope.argumentList?] at ho
  split at ho
  · next list hlist =>
    obtain ⟨a, ha, ho⟩ := exists_of_bind ho
    cases ho
    intro b hb
    cases hb
    exact hs.argumentList (hn.child? hlist) ha
  · cases ho
    intro a ha
    cases ha

theorem arguments (hs : s.Maintains I d) (hn : I.Covers d k n) {a : Arguments}
    (ha : s.arguments n = .ok a) : I.All k a.parts := by
  rw [Scope.arguments] at ha
  split at ha
  · next list hlist =>
    obtain ⟨b, hb, ha⟩ := exists_of_bind ha
    cases ha
    have hparts := hs.argumentList (hn.child? hlist) hb
    cases b <;> exact hparts
  · cases ha
    exact all_nil

theorem subscript (hs : s.Maintains I d) (hn : I.Covers d k n) (he : s.subscript n = .ok e) :
    I.holds (k + 1) (.expr .subscript e) := by
  obtain ⟨es, hes, he⟩ := exists_of_bind he
  cases he
  have hsound := hs.elements hn hes
  have hslot : Slot.subscript ≠ .condition := by decide
  unfold indexOf
  split
  · exact (sound_list hsound _).holds_in hslot
  · next single _ =>
    exact ((hsound single List.mem_cons_self).withSpan _).raise.holds_in hslot
  · have hadmits : Slot.subscript.Admits .wrapped := by decide
    exact I.list rfl hadmits hsound

/-! ## Paths -/

theorem namePart (hs : s.Maintains I d) (hn : I.Covers d k n) (he : s.namePart n = .ok e) :
    I.Sound k e := by
  rw [Scope.namePart] at he
  split at he
  · cases he
    exact sound_symbol I k _ _
  · split at he
    · obtain ⟨value, _, he⟩ := exists_of_bind he
      cases he
      exact sound_constant I k _ _
    · split at he
      · next child hchild =>
        obtain ⟨x, hx, he⟩ := exists_of_bind he
        cases he
        exact (hs.expr (hn.child? hchild) hx).withSpan _
      · cases he

/-- What a member operator makes has the property: an access that takes the member of every element
is safe as well, and only a property has type arguments. -/
theorem sound_memberShape? {object member : Expr} (hobject : I.Sound k object)
    (hmember : I.Sound k member) {generics : Option (List TypeArgument)} {isField : Bool}
    {op : Option String} {shape : ExprShape}
    (h : Scope.memberShape? object member generics isField op = some shape) (span : Span) :
    I.Sound k { shape, span } := by
  have hparts : I.All k [object.part, member.part] := all_pair.2 ⟨hobject, hmember⟩
  unfold Scope.memberShape? at h
  split at h
  · cases h
    exact sound rfl rfl trivial hparts
  · split at h
    · cases h
      exact sound rfl rfl ⟨Access.wellFormed_of_one rfl, rfl⟩ hparts
    · cases h
      exact sound rfl rfl (Access.wellFormed_of_one rfl) hparts
  · split at h
    · cases h
      exact sound rfl rfl ⟨Access.wellFormed_of_one rfl, rfl⟩ hparts
    · cases h
      exact sound rfl rfl (Access.wellFormed_of_one rfl) hparts
  · split at h
    · cases h
      exact sound rfl rfl ⟨(fun _ => rfl), rfl⟩ hparts
    · cases h
      exact sound rfl rfl (fun _ => rfl) hparts
  · cases h

theorem member (hs : s.Maintains I d) (hreceiver : I.Sound k receiver) {namePart : Node}
    (hname : I.Covers d k namePart) (he : s.member receiver n namePart = .ok e) :
    I.Sound k e := by
  obtain ⟨name, hstep, he⟩ := exists_of_bind he
  obtain ⟨generics, _, he⟩ := exists_of_bind he
  dsimp only at he
  split at he
  · next shape hshape =>
    cases he
    exact sound_memberShape? hreceiver (hs.namePart hname hstep) hshape _
  · cases he

theorem sound_subscript (hreceiver : I.Sound k receiver) {index : Expr}
    (hindex : I.holds k (.expr .subscript index)) (n : Node) (span : Span) :
    I.Sound k { shape := .binary receiver (subscriptOp n) index, span } := by
  refine I.binary rfl ((Slot.admits_operand_iff _).2 rfl) hreceiver ?_ ?_
  · unfold subscriptOp
    split <;> exact hindex
  · unfold subscriptOp
    intro h
    split at h <;> cases h

theorem pathElement (hs : s.Maintains I d) (hreceiver : I.Sound (k + 1) receiver)
    (hn : I.Covers d k n) (he : s.pathElement receiver n = .ok e) : I.Sound (k + 1) e := by
  rw [Scope.pathElement] at he
  split at he
  · next child hchild =>
    have hraised : I.Covers d (k + 1) child := (hn.child? hchild).raise
    exact hs.member hreceiver hraised he
  · split at he
    · next child hchild =>
      obtain ⟨index, hindex, he⟩ := exists_of_bind he
      cases he
      exact sound_subscript hreceiver (hs.subscript (hn.child? hchild) hindex) n _
    · split at he
      · next child hchild =>
        obtain ⟨a, ha, he⟩ := exists_of_bind he
        exact hreceiver.applyArguments (hs.arguments (hn.child? hchild) ha).raise he
      · split at he
        · next child hchild =>
          obtain ⟨c, hc, he⟩ := exists_of_bind he
          cases he
          exact hreceiver.applyClosure (hs.closure (hn.child? hchild) hc).raise
        · cases he

theorem pathElements (hs : s.Maintains I d) (hreceiver : I.Sound (k + 1) receiver)
    {elements : List Node} (helements : ∀ c ∈ elements, I.Covers d k c)
    (he : s.pathElements receiver elements = .ok e) : I.Sound (k + 1) e := by
  induction elements generalizing receiver with
  | nil =>
    cases he
    exact hreceiver
  | cons c rest ih =>
    obtain ⟨hc, hrest⟩ := List.forall_mem_cons.1 helements
    rw [pathElements_cons] at he
    obtain ⟨x, hx, he⟩ := exists_of_bind he
    exact ih (hs.pathElement hreceiver hc hx) hrest he

theorem path (hs : s.Maintains I d) (hn : I.Covers d k n) (he : s.path n = .ok e) :
    I.Sound (k + 1) e := by
  obtain ⟨c, primary, hprimary, he⟩ := hs.exists_of_operand hn he
  obtain ⟨x, hx, he⟩ := exists_of_bind he
  cases he
  exact (hs.pathElements hprimary.raise (fun c hc => hn.child hc) hx).withSpan _

/-! ## Commands -/

theorem sound_headCall {base : Expr} (hbase : I.Sound k base) {a : Arguments}
    (ha : I.All k a.parts) : I.Sound k (headCall base a) := by
  unfold headCall
  split
  · next access hshape =>
    obtain ⟨hobject, hmember⟩ := sound_access hbase (.inl hshape)
    exact sound_call hobject hmember ha
  · next access hshape =>
    obtain ⟨hobject, hmember⟩ := sound_access hbase (.inr hshape)
    exact sound_call hobject hmember ha
  · exact hbase.callValue ha
  · exact hbase.callOnThis ha

theorem commandHead {base : Expr} (hbase : I.Sound k base) {o : Option Arguments}
    (ho : ∀ a ∈ o, I.All k a.parts) (he : s.commandHead n base o = .ok e) : I.Sound k e := by
  rw [commandHead_eq] at he
  cases hcall : base.isCall with
  | true =>
    rw [hcall, if_pos rfl] at he
    cases o with
    | none =>
      cases he
      exact hbase
    | some a => cases he
  | false =>
    rw [hcall, if_neg Bool.false_ne_true] at he
    cases he
    cases o with
    | none => exact sound_headCall hbase all_nil
    | some a => exact sound_headCall hbase (ho a rfl)

theorem sound_property (hreceiver : I.Sound k receiver) {member : Expr}
    (hmember : I.Sound k member) (span : Span) :
    I.Sound k { shape := .property { object := receiver, member }, span } :=
  sound rfl rfl (Access.wellFormed_of_one rfl) (all_pair.2 ⟨hreceiver, hmember⟩)

theorem commandArgument (hs : s.Maintains I d) (hreceiver : I.Sound (k + 1) receiver)
    (hn : I.Covers d k n) (he : s.commandArgument receiver n = .ok e) : I.Sound (k + 1) e := by
  obtain ⟨c, primary, hprimary, he⟩ := hs.exists_of_operand hn he
  split at he
  · next list hlist =>
    split at he
    · cases he
    · obtain ⟨a, ha, he⟩ := exists_of_bind he
      cases he
      have harguments := (hs.argumentList (hn.child? hlist) ha).raise
      exact sound_methodCall (Call.wellFormed_of_explicit rfl rfl) hreceiver
        (sound_asName I _ primary) harguments
  · split at he
    · obtain ⟨x, hx, he⟩ := exists_of_bind he
      cases he
      have hproperty := sound_property hreceiver (sound_asName I _ primary) primary.span
      exact (hs.pathElements hproperty (fun c hc => hn.child hc) hx).withSpan _
    · cases he
      exact sound_property hreceiver hprimary.asMethod.raise _

theorem command (hs : s.Maintains I d) (hn : I.Covers d k n) (he : s.command n = .ok e) :
    I.Sound (k + 1) e := by
  rw [command_eq] at he
  obtain ⟨c, base, hbase, he⟩ := hs.exists_of_operand hn he
  obtain ⟨o, ho, he⟩ := exists_of_bind he
  obtain ⟨head, hhead, he⟩ := exists_of_bind he
  obtain ⟨x, hx, he⟩ := exists_of_bind he
  cases he
  have hheadSound : I.Sound (k + 1) head :=
    (commandHead hbase (hs.argumentList? hn ho) hhead).raise
  have hwords : Ensures ((n.nodes .commandArgument).foldlM s.commandArgument head)
      (I.Sound (k + 1)) := by
    refine Ensures.foldlM ?_ hheadSound
    intro front hfront word hword back hback
    exact hs.commandArgument hfront (hn.child hword) hback
  exact (hwords x hx).withSpan _

/-! ## Creators and interpolated strings -/

theorem creator (hs : s.Maintains I d) (hn : I.Covers d k n) (he : s.creator n = .ok e) :
    I.Sound k e := by
  obtain ⟨name, _, he⟩ := exists_of_node he
  obtain ⟨type, _, he⟩ := exists_of_bind he
  split at he
  · next child hchild =>
    obtain ⟨a, ha, he⟩ := exists_of_bind he
    cases he
    exact sound rfl rfl trivial (hs.arguments (hn.child? hchild) ha)
  · split at he
    · obtain ⟨sizes, hsizes, he⟩ := exists_of_bind he
      cases he
      have hgiven : ∀ x ∈ sizes, I.Sound k x := by
        intro x hx
        obtain ⟨c, hc, hstep⟩ := exists_of_mem_mapM hsizes hx
        exact hs.expr (hn.child hc) hstep
      have hopen : ∀ x ∈ (n.tokens .emptyDimension).map fun t => Expr.null t.span,
          I.Sound k x :=
        List.forall_mem_map.2 fun t _ => sound_constant I k _ _
      exact sound rfl rfl trivial (all_map.2 (List.forall_mem_append.2 ⟨hgiven, hopen⟩))
    · cases he

theorem sound_dotted (ts : List Token) (he : I.Sound k e) :
    I.Sound k (ts.foldl Expr.dotted e) := by
  induction ts generalizing e with
  | nil => exact he
  | cons t ts ih => exact ih (sound_property he (sound_symbol I k _ _) _)

theorem gstringValue (hs : s.Maintains I d) (hn : I.Covers d k n)
    (he : s.gstringValue n = .ok e) : I.Sound k e := by
  rw [Scope.gstringValue] at he
  split at he
  · obtain ⟨x, hx, he⟩ := exists_of_bind he
    obtain ⟨name, _, hx⟩ := exists_of_token hx
    cases hx
    cases he
    exact (sound_dotted _ (sound_named I k _ _)).withSpan _
  · split at he
    · next child hchild =>
      obtain ⟨x, hx, he⟩ := exists_of_bind he
      cases he
      exact (hs.expr (hn.child? hchild) hx).withSpan _
    · split at he
      · next child hchild =>
        obtain ⟨closure, hclosure, he⟩ := exists_of_bind he
        have hsound := hs.closure (hn.child? hchild) hclosure
        split at he
        · cases he
          exact hsound.withSpan _
        · cases he
          exact sound_methodCall (Call.wellFormed_of_explicit rfl rfl) hsound
            (sound_symbol I k _ _) all_nil
      · cases he
        exact sound_constant I k _ _

theorem gstring (hs : s.Maintains I d) (hn : I.Covers d k n) (he : s.gstring n = .ok e) :
    I.Sound k e := by
  obtain ⟨first, _, he⟩ := exists_of_token he
  obtain ⟨last, _, he⟩ := exists_of_token he
  obtain ⟨values, hvalues, he⟩ := exists_of_bind he
  cases he
  refine sound rfl rfl trivial (all_append.2 ⟨all_map.2 ?_, all_map.2 ?_⟩)
  · -- The strings between the values are constants.
    intro x hx
    rcases List.mem_cons.1 hx with rfl | hx
    · exact sound_symbol I k _ _
    · rcases List.mem_append.1 hx with hx | hx
      · obtain ⟨t, _, rfl⟩ := List.mem_map.1 hx
        exact sound_symbol I k _ _
      · cases List.mem_singleton.1 hx
        exact sound_symbol I k _ _
  · intro x hx
    obtain ⟨c, hc, hstep⟩ := exists_of_mem_mapM hvalues hx
    exact hs.gstringValue (hn.child hc) hstep

/-! ## Operators -/

theorem stepAfter (hs : s.Maintains I d) (hn : I.Covers d k n) (he : s.stepAfter n = .ok e) :
    I.Sound k e := by
  obtain ⟨c, x, hx, he⟩ := hs.exists_of_operand hn he
  obtain ⟨op, _, he⟩ := exists_of_token he
  split at he
  · cases he
    exact sound rfl rfl trivial (all_singleton.2 hx)
  · cases he

theorem negateConstant {c : Constant} {m : Node} (he : s.negateConstant n m c = .ok e) :
    I.Sound k e := by
  rw [Scope.negateConstant] at he
  split at he
  · obtain ⟨negated, _, he⟩ := exists_of_bind he
    cases he
    exact sound_constant I k _ _
  · cases he

theorem unary (hs : s.Maintains I d) (hn : I.Covers d k n) (he : s.unary n = .ok e) :
    I.Sound k e := by
  obtain ⟨op, _, he⟩ := exists_of_token he
  obtain ⟨c, x, hx, he⟩ := hs.exists_of_operand hn he
  have hone : I.All k [x.part] := all_singleton.2 hx
  split at he
  · split at he
    · cases he
      exact hx.withSpan _
    · cases he
      exact sound rfl rfl trivial hone
  · split at he
    · split at he
      · exact negateConstant he
      · cases he
        exact sound rfl rfl trivial hone
    · split at he
      · cases he
        exact sound rfl rfl trivial hone
      · cases he

theorem negation (hs : s.Maintains I d) (hn : I.Covers d k n) (he : s.negation n = .ok e) :
    I.Sound k e := by
  obtain ⟨c, x, hx, he⟩ := hs.exists_of_operand hn he
  obtain ⟨op, _, he⟩ := exists_of_token he
  have hone : I.All k [x.part] := all_singleton.2 hx
  split at he
  · cases he
    exact sound rfl rfl trivial hone
  · split at he
    · cases he
      exact sound rfl rfl trivial hone
    · cases he

/-- An operator between two operands. -/
theorem sound_operator {left right : Expr} (hleft : I.Sound k left) (hright : I.Sound k right)
    {op : BinaryOp} (htakes : op.Takes I.scope I.node left right) (span : Span) :
    I.Sound k { shape := .binary left op right, span } := by
  have hslot : op.rightSlot ≠ .condition := by cases op <;> decide
  exact I.binary rfl ((Slot.admits_operand_iff _).2 rfl) hleft (hright.holds_in hslot) htakes

theorem binary (hs : s.Maintains I d) (hn : I.Covers d k n) (hkind : n.kind = .binary)
    (he : s.binary n = .ok e) : I.Sound k e := by
  have hbinary := he
  obtain ⟨l, left, hleft, he⟩ := hs.exists_of_operand hn he
  obtain ⟨r, right, hright, he⟩ := hs.exists_of_operand hn he
  have hboth : I.All k [left.part, right.part] := all_pair.2 ⟨hleft, hright⟩
  split at he
  · next shape hshape =>
    cases he
    unfold binaryShape? at hshape
    split at hshape
    · cases hshape
      exact sound rfl rfl trivial hboth
    · split at hshape
      · cases hshape
        exact sound rfl rfl trivial hboth
      · obtain ⟨op, _, rfl⟩ := Option.map_eq_some_iff.1 hshape
        have hoperates : s.Operates n (.binary left op right) := ⟨hkind, _, hbinary, rfl⟩
        exact sound_operator hleft hright (fun _ => .inr ⟨s, n, hs.scope, hn.node, hoperates⟩) _
  · cases he

theorem assignment (hs : s.Maintains I d) (hn : I.Covers d k n) (he : s.assignment n = .ok e) :
    I.Sound k e := by
  obtain ⟨l, left, hleft, he⟩ := hs.exists_of_operand hn he
  split at he
  · next hassignable =>
    obtain ⟨op, _, he⟩ := exists_of_token he
    split at he
    · obtain ⟨r, right, hright, he⟩ := hs.exists_of_operand hn he
      cases he
      exact sound_operator hleft hright (fun _ => .inl hassignable) n.span
    · cases he
  · cases he

theorem cast (hs : s.Maintains I d) (hn : I.Covers d k n) (he : s.cast n = .ok e) :
    I.Sound k e := by
  obtain ⟨t, _, he⟩ := exists_of_node he
  obtain ⟨type, _, he⟩ := exists_of_bind he
  obtain ⟨c, x, hx, he⟩ := hs.exists_of_operand hn he
  cases he
  exact sound rfl rfl trivial (all_singleton.2 hx)

theorem typeTest (hs : s.Maintains I d) (hn : I.Covers d k n) (he : s.typeTest n = .ok e) :
    I.Sound k e := by
  obtain ⟨l, left, hleft, he⟩ := hs.exists_of_operand hn he
  obtain ⟨t, _, he⟩ := exists_of_node he
  obtain ⟨type, _, he⟩ := exists_of_bind he
  obtain ⟨op, _, he⟩ := exists_of_token he
  split at he
  · cases he
    exact sound rfl rfl trivial (all_singleton.2 hleft)
  · split at he
    · cases he
      have htype : I.Sound k { shape := .classValue type, span := t.span } :=
        sound rfl rfl trivial all_nil
      exact sound_operator hleft htype (fun h => by cases h) _
    · cases he

theorem conditional (hs : s.Maintains I d) (hn : I.Covers d k n) (he : s.conditional n = .ok e) :
    I.Sound k e := by
  obtain ⟨c, condition, hcondition, he⟩ := hs.exists_of_operand hn he
  obtain ⟨c', no, hno, he⟩ := hs.exists_of_operand hn he
  split at he
  · cases he
    exact sound rfl rfl trivial (all_pair.2 ⟨hcondition, hno⟩)
  · obtain ⟨c'', yes, hyes, he⟩ := hs.exists_of_operand hn he
    cases he
    exact sound rfl rfl trivial
      (all_cons.2 ⟨hcondition.truth _, all_pair.2 ⟨hyes, hno⟩⟩)

/-! ## All expressions -/

theorem nameOf (he : s.nameOf n role = .ok e) : I.Sound k e := by
  obtain ⟨t, _, he⟩ := exists_of_token he
  cases he
  exact sound_named I k _ _

theorem literal (he : s.literal n = .ok e) : I.Sound k e := by
  obtain ⟨t, _, he⟩ := exists_of_token he
  obtain ⟨value, _, he⟩ := exists_of_bind he
  cases he
  exact sound_constant I k _ _

theorem parenthesized (hs : s.Maintains I d) (hn : I.Covers d k n)
    (he : s.parenthesized n = .ok e) : I.Sound k e := by
  obtain ⟨c, x, hx, he⟩ := hs.exists_of_operand hn he
  cases he
  exact hx.of_shape_eq rfl

theorem list (hs : s.Maintains I d) (hn : I.Covers d k n) (he : s.list n = .ok e) :
    I.Sound (k + 1) e := by
  obtain ⟨es, hes, he⟩ := exists_of_bind he
  cases he
  exact sound_list (hs.elements hn hes) _

theorem map (hs : s.Maintains I d) (hn : I.Covers d k n) (he : s.map n = .ok e) :
    I.Sound k e := by
  obtain ⟨ms, hms, he⟩ := exists_of_bind he
  cases he
  exact sound rfl rfl trivial (hs.mapEntries hn hms)

theorem expression (hs : s.Maintains I d) (hn : I.Covers d k n) (he : s.expression n = .ok e) :
    I.Sound (k + 1) e := by
  rw [Scope.expression] at he
  split at he
  · exact hs.path hn he
  · exact hs.command hn he
  · exact (hs.element hn he).raise
  · exact (hs.stepAfter hn he).raise
  · exact (hs.unary hn he).raise
  · exact (hs.negation hn he).raise
  · exact (hs.cast hn he).raise
  · next hkind => exact (hs.binary hn hkind he).raise
  · exact (hs.typeTest hn he).raise
  · exact (hs.conditional hn he).raise
  · exact (hs.assignment hn he).raise
  · exact nameOf he
  · exact literal he
  · exact (hs.gstring hn he).raise
  · exact (hs.creator hn he).raise
  · cases he
    exact sound_named I _ _ _
  · cases he
    exact sound_named I _ _ _
  · exact (hs.parenthesized hn he).raise
  · exact hs.list hn he
  · exact (hs.map hn he).raise
  · exact nameOf he
  · exact (hs.closure hn he).raise
  · cases he

end Scope.Maintains

end GroovyLowering
