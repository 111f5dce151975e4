import GroovyLowering.Proofs.Failure.Declaration
import GroovyLowering.Proofs.Failure.Name

/-!
# Failures of expressions

One theorem per construct, as for declarations.  Three failures have a place of their own.

* A constant under a minus sign is refused at the sign and the constant, which have the token of the
  sign.
* The target of an assignment is refused at its own place, or at the start of the file.
* The name of a primitive type is refused where it is called.  No element of a path makes a name,
  so it is the primary of the path, and the place is the one that the scope gave it.
-/

namespace GroovyLowering

namespace Scope.Locates

variable {s : Scope} {m n : Node} {role : Role} {receiver : Expr}

/-! ## Arguments and subscripts -/

theorem element (hs : s.Locates m) (hn : n.IsPartOf m) : s.Reports m (s.element n) := by
  apply hs.operand hn
  intro c e _ _
  split
  · exact .pure
  · exact .pure

theorem elements (hs : s.Locates m) (hn : n.IsPartOf m) : s.Reports m (s.elements n) :=
  .mapM fun _ hc => hs.element (hn.child hc)

theorem key (hs : s.Locates m) (hn : n.IsPartOf m) : s.Reports m (s.key n) := by
  rw [Scope.key]
  split
  · exact .ok
  · apply hs.operand hn
    intro c e _ _
    exact .pure

theorem mapEntry (hs : s.Locates m) (hn : n.IsPartOf m) : s.Reports m (s.mapEntry n) := by
  apply hs.operand hn
  intro c value _ _
  split
  · exact .pure
  · apply hs.node hn
    intro label _ hlabel
    exact (hs.key hlabel).map

theorem mapEntries (hs : s.Locates m) (hn : n.IsPartOf m) : s.Reports m (s.mapEntries n) :=
  .mapM fun _ hc => hs.mapEntry (hn.child hc)

theorem argumentList (hs : s.Locates m) (hn : n.IsPartOf m) : s.Reports m (s.argumentList n) := by
  rw [Scope.argumentList]
  split
  · exact (hs.mapEntries hn).map
  · exact (hs.elements hn).map

theorem arguments (hs : s.Locates m) (hn : n.IsPartOf m) : s.Reports m (s.arguments n) := by
  rw [Scope.arguments]
  split
  · next list hlist => exact (hs.argumentList (hn.child? hlist)).map
  · exact .ok

/-! ## Paths -/

theorem namePart (hs : s.Locates m) (hn : n.IsPartOf m) : s.Reports m (s.namePart n) := by
  rw [Scope.namePart]
  split
  · exact .ok
  · split
    · exact (hs.stringValue hn _).map
    · split
      · next child hchild => exact (hs.expr (hn.child? hchild)).map
      · exact hs.refuse hn _

theorem member (hs : s.Locates m) (hn : n.IsPartOf m) (receiver : Expr) {namePart : Node}
    (hname : namePart.IsPartOf m) : s.Reports m (s.member receiver n namePart) := by
  apply (hs.namePart hname).bind
  intro name _
  apply (hs.typeArguments? hn).bind
  intro generics _
  dsimp only
  split
  · exact .pure
  · exact hs.refuse hn _

/-- A call fails where the name of a primitive type is called, at its place. -/
theorem applyArguments (hreceiver : receiver.IsPrimitive → receiver.span.Within m.span)
    (arguments : Arguments) (span : Span) :
    s.Reports m (receiver.applyArguments arguments span) := by
  unfold Expr.applyArguments
  split
  · exact .ok
  · exact .ok
  · exact .ok
  · exact .ok
  · next v hshape =>
    split
    · exact .ok
    · split
      · next hprimitive => exact .error (.within (hreceiver ⟨v, hshape, hprimitive⟩))
      · exact .ok
  · exact .ok
  · split
    · exact .ok
    · exact .ok
  · exact .ok

theorem pathElement (hs : s.Locates m) (hn : n.IsPartOf m)
    (hreceiver : receiver.IsPrimitive → receiver.span.Within m.span) :
    s.Reports m (s.pathElement receiver n) := by
  rw [Scope.pathElement]
  split
  · next child hchild => exact hs.member hn receiver (hn.child? hchild)
  · split
    · next child hchild => exact ((hs.elements (hn.child? hchild)).map).map
    · split
      · next child hchild =>
        apply (hs.arguments (hn.child? hchild)).bind
        intro arguments _
        exact applyArguments hreceiver arguments _
      · split
        · next child hchild => exact (hs.closure (hn.child? hchild)).map
        · exact hs.refuse hn _

theorem pathElements (hs : s.Locates m) {elements : List Node}
    (helements : ∀ c ∈ elements, c.IsPartOf m)
    (hreceiver : receiver.IsPrimitive → receiver.span.Within m.span) :
    s.Reports m (s.pathElements receiver elements) := by
  induction elements generalizing receiver with
  | nil => exact .ok
  | cons c rest ih =>
    obtain ⟨hc, hrest⟩ := List.forall_mem_cons.1 helements
    rw [pathElements_cons]
    apply (hs.pathElement hc hreceiver).bind
    intro x hx
    exact ih hrest fun hprimitive =>
      absurd hprimitive (Expr.not_isPrimitive (asVariable?_pathElement hx))

theorem path (hs : s.Locates m) (hn : n.IsPartOf m) : s.Reports m (s.path n) := by
  apply hs.operand hn
  intro c primary hc hprimary
  have hreceiver : primary.IsPrimitive → primary.span.Within m.span := by
    intro hprimitive
    exact (hs.primitive hc hprimary hprimitive).2
  exact (hs.pathElements (fun c hc => hn.child hc) hreceiver).map

/-! ## Commands -/

theorem commandHead (hs : s.Locates m) (hn : n.IsPartOf m) (base : Expr)
    (arguments : Option Arguments) : s.Reports m (s.commandHead n base arguments) := by
  rw [commandHead_eq]
  split
  · split
    · exact hs.refuse hn _
    · exact .ok
  · exact .ok

theorem commandArgument (hs : s.Locates m) (hn : n.IsPartOf m) (receiver : Expr) :
    s.Reports m (s.commandArgument receiver n) := by
  apply hs.operand hn
  intro c primary _ _
  split
  · next list hlist =>
    split
    · exact hs.refuse hn _
    · exact (hs.argumentList (hn.child? hlist)).map
  · split
    · have hproperty : ∀ {e : Expr}, e.asVariable? = none → e.IsPrimitive →
          e.span.Within m.span := fun h hprimitive => absurd hprimitive (Expr.not_isPrimitive h)
      exact (hs.pathElements (fun c hc => hn.child hc) (hproperty rfl)).map
    · exact .pure

theorem command (hs : s.Locates m) (hn : n.IsPartOf m) : s.Reports m (s.command n) := by
  rw [command_eq]
  apply hs.operand hn
  intro c base _ _
  have harguments : s.Reports m (s.argumentList? n) := by
    rw [argumentList?]
    split
    · next list hlist => exact (hs.argumentList (hn.child? hlist)).map
    · exact .ok
  apply harguments.bind
  intro arguments _
  apply (hs.commandHead hn base arguments).bind
  intro head _
  have hwords : s.Reports m ((n.nodes .commandArgument).foldlM s.commandArgument head) :=
    .foldlM (fun c hc receiver => hs.commandArgument (hn.child hc) receiver) head
  exact hwords.map

/-! ## Creators, literals and interpolated strings -/

theorem createdType (hs : s.Locates m) (hn : n.IsPartOf m) : s.Reports m (s.createdType n) := by
  rw [Scope.createdType]
  split
  · exact .ok
  · apply hs.node hn
    intro name _ _
    apply (hs.typeArguments? hn).bind
    intro generics _
    split
    · exact .pure
    · exact .pure

theorem creator (hs : s.Locates m) (hn : n.IsPartOf m) : s.Reports m (s.creator n) := by
  apply hs.node hn
  intro name _ hname
  apply (hs.createdType hname).bind
  intro type _
  split
  · next child hchild => exact (hs.arguments (hn.child? hchild)).map
  · split
    · have hsizes : s.Reports m ((n.nodes .dimension).mapM s.expr) :=
        .mapM fun c hc => hs.expr (hn.child hc)
      exact hsizes.map
    · exact hs.refuse hn _

theorem number (hs : s.Locates m) (hn : n.IsPartOf m)
    (read : Except Literal.NumberError Literal.Number) : s.Reports m (s.number n read) := by
  cases read with
  | ok value => exact .ok
  | error problem => exact hs.refuse hn _

theorem literal (hs : s.Locates m) (hn : n.IsPartOf m) : s.Reports m (s.literal n) := by
  apply hs.token hn
  intro t _ _ _
  have hvalue : s.Reports m (s.literalValue n t) := by
    rw [literalValue]
    split
    · exact (hs.number hn _).map
    · split
      · exact (hs.stringValue hn t).map
      · exact .ok
      · exact .ok
      · exact hs.refuse hn _
  exact hvalue.map

theorem gstringValue (hs : s.Locates m) (hn : n.IsPartOf m) : s.Reports m (s.gstringValue n) := by
  rw [Scope.gstringValue]
  split
  · next child hchild =>
    have hpath : s.Reports m (s.gstringPath child) := by
      apply hs.token (hn.child? hchild)
      intro name _ _ _
      exact .pure
    exact hpath.map
  · split
    · next child hchild => exact (hs.expr (hn.child? hchild)).map
    · split
      · next child hchild =>
        apply (hs.closure (hn.child? hchild)).bind
        intro closure _
        split
        · exact .pure
        · exact .pure
      · exact .ok

theorem gstring (hs : s.Locates m) (hn : n.IsPartOf m) : s.Reports m (s.gstring n) := by
  apply hs.token hn
  intro first _ _ _
  apply hs.token hn
  intro last _ _ _
  have hvalues : s.Reports m ((n.nodes .value).mapM s.gstringValue) :=
    .mapM fun c hc => hs.gstringValue (hn.child hc)
  exact hvalues.map

/-! ## Operators -/

theorem stepAfter (hs : s.Locates m) (hn : n.IsPartOf m) : s.Reports m (s.stepAfter n) := by
  apply hs.operand hn
  intro c e _ _
  apply hs.token hn
  intro op _ _ _
  split
  · exact .pure
  · exact hs.refuse hn _

theorem signFlipped? (hs : s.Locates m) (hn : n.IsPartOf m) : s.Reports m (s.signFlipped? n) := by
  rw [Scope.signFlipped?]
  split
  · split
    · split
      · exact (hs.number hn _).map
      · exact .ok
    · exact .ok
  · exact .ok

theorem negateConstant (hs : s.Locates m) (hn : n.IsPartOf m) (hne : n.allTokens ≠ []) {c : Node}
    (hc : c.IsPartOf m) (value : Constant) : s.Reports m (s.negateConstant n c value) := by
  rw [Scope.negateConstant]
  split
  · exact (hs.signFlipped? hc).map
  · exact .error (.within (hs.span_within hn hne _))

theorem unary (hs : s.Locates m) (hn : n.IsPartOf m) : s.Reports m (s.unary n) := by
  apply hs.token hn
  intro op _ _ hne
  apply hs.operand hn
  intro c e hc _
  split
  · split
    · exact .pure
    · exact .pure
  · split
    · split
      · exact hs.negateConstant hn hne hc _
      · exact .pure
    · split
      · exact .pure
      · exact hs.refuse hn _

theorem negation (hs : s.Locates m) (hn : n.IsPartOf m) : s.Reports m (s.negation n) := by
  apply hs.operand hn
  intro c e _ _
  apply hs.token hn
  intro op _ _ _
  split
  · exact .pure
  · split
    · exact .pure
    · exact hs.refuse hn _

theorem binary (hs : s.Locates m) (hn : n.IsPartOf m) : s.Reports m (s.binary n) := by
  apply hs.operand hn
  intro l left _ _
  apply hs.operand hn
  intro r right _ _
  split
  · exact .pure
  · exact hs.refuse hn _

/-- The target of an assignment is refused at its own place, or at the start of the file. -/
theorem assignment (hs : s.Locates m) (hn : n.IsPartOf m) (hkind : n.kind = .assignment) :
    s.Reports m (s.assignment n) := by
  apply hs.node hn
  intro l hl hpart
  apply (hs.expr hpart).bind
  intro left _
  split
  · apply hs.token hn
    intro op _ _ _
    split
    · apply hs.operand hn
      intro r right _ _
      exact .pure
    · exact hs.refuse hn _
  · by_cases hbare : l.allTokens = []
    · have hspan : l.span = .fileStart := Node.spanOr_of_eq_nil hbare _
      rw [hspan]
      exact .error (.target hn hkind hl hbare)
    · exact .error (.within (hs.span_within hpart hbare _))

theorem cast (hs : s.Locates m) (hn : n.IsPartOf m) : s.Reports m (s.cast n) := by
  apply hs.node hn
  intro t _ ht
  apply (hs.typeRef ht).bind
  intro type _
  apply hs.operand hn
  intro c e _ _
  exact .pure

theorem typeTest (hs : s.Locates m) (hn : n.IsPartOf m) : s.Reports m (s.typeTest n) := by
  apply hs.operand hn
  intro l left _ _
  apply hs.node hn
  intro t _ ht
  apply (hs.typeRef ht).bind
  intro type _
  apply hs.token hn
  intro op _ _ _
  split
  · exact .pure
  · split
    · exact .pure
    · exact hs.refuse hn _

theorem conditional (hs : s.Locates m) (hn : n.IsPartOf m) : s.Reports m (s.conditional n) := by
  apply hs.operand hn
  intro c condition _ _
  apply hs.operand hn
  intro c' no _ _
  split
  · exact .pure
  · apply hs.operand hn
    intro c'' yes _ _
    exact .pure

/-! ## All expressions -/

theorem nameOf (hs : s.Locates m) (hn : n.IsPartOf m) : s.Reports m (s.nameOf n role) := by
  apply hs.token hn
  intro t _ _ _
  exact .pure

theorem expression (hs : s.Locates m) (hn : n.IsPartOf m) : s.Reports m (s.expression n) := by
  rw [Scope.expression]
  split
  · exact hs.path hn
  · exact hs.command hn
  · exact hs.element hn
  · exact hs.stepAfter hn
  · exact hs.unary hn
  · exact hs.negation hn
  · exact hs.cast hn
  · exact hs.binary hn
  · exact hs.typeTest hn
  · exact hs.conditional hn
  · next hkind => exact hs.assignment hn hkind
  · exact hs.nameOf hn
  · exact hs.literal hn
  · exact hs.gstring hn
  · exact hs.creator hn
  · exact .ok
  · exact .ok
  · apply hs.operand hn
    intro c e _ _
    exact .pure
  · exact (hs.elements hn).map
  · exact (hs.mapEntries hn).map
  · exact hs.nameOf hn
  · exact hs.closure hn
  · exact hs.refuse hn _

end Scope.Locates

end GroovyLowering
