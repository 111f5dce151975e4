import GroovyLowering.Lower.Callable
import GroovyLowering.Proofs.Failure.Basic

/-!
# Failures of types, declarations and statement lists

One theorem per construct, named after its lowering: if the scope locates its failures at a node,
the failures of all parts of the node point at it.

A member of an annotation that comes a second time is refused at the token of its name.  Everything
else here is refused at the place of a node.
-/

namespace GroovyLowering

namespace Scope.Locates

variable {s : Scope} {m n : Node} {role : Role}

/-! ## Types -/

mutual

theorem typeRef (hs : s.Locates m) {n : Node} (hn : n.IsPartOf m) :
    s.Reports m (s.typeRef n) := by
  rw [typeRef_eq]
  split
  · next child hchild =>
    have := Node.size_lt_of_node? hchild
    exact (classType hs (hn.child? hchild)).map
  · split
    · exact .ok
    · exact hs.refuse hn _
termination_by n.size

theorem classType (hs : s.Locates m) {n : Node} (hn : n.IsPartOf m) :
    s.Reports m (s.classType n) := by
  rw [classType_eq]
  apply hs.node hn
  intro name _ _
  split
  · next child hchild =>
    have := Node.size_lt_of_node? hchild
    exact (typeArguments hs (hn.child? hchild)).map
  · exact .pure
termination_by n.size

theorem typeArguments (hs : s.Locates m) {n : Node} (hn : n.IsPartOf m) :
    s.Reports m (s.typeArguments n) := by
  rw [typeArguments_eq]
  apply Reports.mapM
  intro c hc
  have := Node.size_lt_of_mem_nodes hc
  exact typeArgument hs (hn.child hc)
termination_by n.size

theorem typeArgument (hs : s.Locates m) {n : Node} (hn : n.IsPartOf m) :
    s.Reports m (s.typeArgument n) := by
  rw [typeArgument_eq]
  split
  · have hbound : s.Reports m (s.wildcardBound n) := by
      rw [wildcardBound]
      split
      · next child hchild =>
        have := Node.size_lt_of_node? hchild
        exact (typeRef hs (hn.child? hchild)).map
      · exact .ok
    apply hbound.bind
    intro bound _
    rw [wildcardOf]
    split
    · exact .ok
    · split
      · exact .ok
      · split
        · exact .ok
        · exact hs.refuse hn _
  · split
    · next child hchild =>
      have := Node.size_lt_of_node? hchild
      exact (typeRef hs (hn.child? hchild)).map
    · exact hs.refuse hn _
termination_by n.size

end

theorem typeArguments? (hs : s.Locates m) (hn : n.IsPartOf m) :
    s.Reports m (s.typeArguments? n) := by
  rw [Scope.typeArguments?]
  split
  · next child hchild => exact (hs.typeArguments (hn.child? hchild)).map
  · exact .ok

theorem typeOr (hs : s.Locates m) (hn : n.IsPartOf m) (name : Token) :
    s.Reports m (s.typeOr n name) := by
  rw [Scope.typeOr]
  split
  · next child hchild => exact hs.typeRef (hn.child? hchild)
  · exact .ok

/-! ## Annotations and modifiers -/

mutual

theorem annotationUse (hs : s.Locates m) {n : Node} (hn : n.IsPartOf m) :
    s.Reports m (s.annotationUse n) := by
  rw [annotationUse_eq]
  apply hs.node hn
  intro name _ _
  have hmembers : s.Reports m ((n.nodes .pair).foldlM s.annotationMember []) := by
    apply Reports.foldlM
    intro pair hpair members
    have := Node.size_lt_of_mem_nodes hpair
    exact annotationMember hs (hn.child hpair) members
  apply hmembers.bind
  intro members _
  split
  · next child hchild =>
    have := Node.size_lt_of_node? hchild
    exact (elementValue hs (hn.child? hchild)).map
  · exact .pure
termination_by n.size

theorem annotationMember (hs : s.Locates m) {n : Node} (hn : n.IsPartOf m)
    (members : List (String × Expr)) : s.Reports m (s.annotationMember members n) := by
  apply hs.token hn
  intro name _ hwithin _
  split
  · next child hchild =>
    have := Node.size_lt_of_node? hchild
    apply (elementValue hs (hn.child? hchild)).bind
    intro value _
    split
    · exact .error (.within hwithin)
    · exact .pure
  · exact hs.refuse hn _
termination_by n.size

theorem elementValue (hs : s.Locates m) {n : Node} (hn : n.IsPartOf m) :
    s.Reports m (s.elementValue n) := by
  rw [elementValue_eq]
  split
  · next child hchild => exact hs.expr (hn.child? hchild)
  · split
    · next child hchild =>
      have := Node.size_lt_of_node? hchild
      exact (annotationUse hs (hn.child? hchild)).map
    · split
      · next array harray =>
        have harrayPart := hn.child? harray
        have helements : s.Reports m ((array.nodes .element).mapM s.elementValue) := by
          apply Reports.mapM
          intro c hc
          have := Nat.lt_trans (Node.size_lt_of_mem_nodes hc) (Node.size_lt_of_node? harray)
          exact elementValue hs (harrayPart.child hc)
        exact helements.map
      · exact hs.refuse hn _
termination_by n.size

end

theorem modifier (hs : s.Locates m) (hn : n.IsPartOf m) : s.Reports m (s.modifier n) := by
  rw [Scope.modifier]
  split
  · next child hchild => exact (hs.annotationUse (hn.child? hchild)).map
  · apply hs.token hn
    intro keyword _ _ _
    split
    · exact .pure
    · exact hs.refuse hn _

theorem modifiers (hs : s.Locates m) (hn : n.IsPartOf m) : s.Reports m (s.modifiers n) := by
  rw [Scope.modifiers]
  split
  · next list hlist =>
    have hmodifiers : s.Reports m ((list.nodes .modifier).mapM s.modifier) := by
      apply Reports.mapM
      intro c hc
      exact hs.modifier ((hn.child? hlist).child hc)
    exact hmodifiers.map
  · exact .ok

/-! ## Declarations -/

theorem initializer (hs : s.Locates m) {n : Node} (hn : n.IsPartOf m) :
    s.Reports m (s.initializer n) := by
  rw [initializer_eq]
  split
  · next array harray =>
    have harrayPart := hn.child? harray
    have helements : s.Reports m ((array.nodes .element).mapM s.initializer) := by
      apply Reports.mapM
      intro c hc
      have := Nat.lt_trans (Node.size_lt_of_mem_nodes hc) (Node.size_lt_of_node? harray)
      exact initializer hs (harrayPart.child hc)
    exact helements.map
  · apply hs.operand hn
    intro c e _ _
    exact .pure
termination_by n.size

theorem initializerOr (hs : s.Locates m) (hn : n.IsPartOf m) (fallback : Span) :
    s.Reports m (s.initializerOr n fallback) := by
  rw [Scope.initializerOr]
  split
  · next child hchild => exact hs.initializer (hn.child? hchild)
  · exact .ok

theorem declarator (hs : s.Locates m) (hn : n.IsPartOf m) {c : Node} (hc : c.IsPartOf m)
    (modifiers : ModifierSet) (span : Span) : s.Reports m (s.declarator n modifiers span c) := by
  apply hs.token hc
  intro name _ _ _
  apply (hs.typeOr hn name).bind
  intro type _
  exact (hs.initializerOr hc c.span).map

theorem declarators (hs : s.Locates m) (hn : n.IsPartOf m) (modifiers : ModifierSet)
    {ds : List Node} (hds : ∀ c ∈ ds, c.IsPartOf m) :
    s.Reports m (s.declarators n modifiers ds) := by
  cases ds with
  | nil => exact hs.refuse hn _
  | cons c others =>
    obtain ⟨hc, hothers⟩ := List.forall_mem_cons.1 hds
    cases others with
    | nil => exact (hs.declarator hn hc modifiers _).map
    | cons c' others =>
      apply (hs.declarator hn hc modifiers _).bind
      intro first _
      have hrest : s.Reports m ((c' :: others).mapM fun d => s.declarator n modifiers d.span d) :=
        .mapM fun d hd => hs.declarator hn (hothers d hd) modifiers d.span
      exact hrest.map

theorem tuple (hs : s.Locates m) (hn : n.IsPartOf m) (modifiers : ModifierSet)
    {pairs : List Node} (hpairs : ∀ c ∈ pairs, c.IsPartOf m) :
    s.Reports m (s.tuple n modifiers pairs) := by
  rw [Scope.tuple]
  split
  · apply (hs.initializerOr hn n.span).bind
    intro e _
    apply Reports.mapM
    rintro ⟨pair, index⟩ hentry
    obtain ⟨_, _, hpair⟩ := List.mem_zipIdx hentry
    have hpart : pair.IsPartOf m := by
      rw [hpair]
      exact hpairs _ (List.getElem_mem _)
    apply hs.token hpart
    intro name _ _ _
    exact (hs.typeOr hpart name).map
  · exact hs.refuse hn _

theorem localVariable (hs : s.Locates m) (hn : n.IsPartOf m) :
    s.Reports m (s.localVariable n) := by
  apply (hs.modifiers hn).bind
  intro modifiers _
  split
  · next pairs hpairs =>
    have hpart := hn.child? hpairs
    exact hs.tuple hn modifiers fun c hc => hpart.child hc
  · exact hs.declarators hn modifiers fun c hc => hn.child hc

/-! ## Statement lists -/

theorem blockStatement (hs : s.Locates m) {n : Node} (hn : n.IsPartOf m) :
    s.Reports m (s.blockStatement n) := by
  rw [blockStatement_eq]
  split
  · exact hs.localVariable hn
  · apply hs.token hn
    intro label _ _ _
    split
    · next child hchild =>
      have := Node.size_lt_of_node? hchild
      exact (blockStatement hs (hn.child? hchild)).map
    · exact hs.refuse hn _
  · exact hs.refuse hn _
  · exact hs.refuse hn _
  · exact (hs.stmt hn).map
termination_by n.size

theorem statements (hs : s.Locates m) (hn : n.IsPartOf m) : s.Reports m (s.statements n) := by
  have hlists : s.Reports m ((n.nodes .statement).mapM s.blockStatement) :=
    .mapM fun c hc => hs.blockStatement (hn.child hc)
  exact hlists.map

theorem block (hs : s.Locates m) (hn : n.IsPartOf m) : s.Reports m (s.block n) :=
  (hs.statements hn).map

/-- The statement list in the body of a construct. -/
theorem bodyOr (hs : s.Locates m) (hn : n.IsPartOf m) (fallback : Span) :
    s.Reports m (s.body n fallback) := by
  rw [Scope.body]
  split
  · next list hlist => exact (hs.statements (hn.child? hlist)).map
  · exact .ok

/-! ## Closures and methods -/

theorem expr? (hs : s.Locates m) (hn : n.IsPartOf m) : s.Reports m (s.expr? n role) := by
  rw [Scope.expr?]
  split
  · next child hchild => exact (hs.expr (hn.child? hchild)).map
  · exact .ok

theorem parameter (hs : s.Locates m) (hn : n.IsPartOf m) : s.Reports m (s.parameter n) := by
  apply (hs.modifiers hn).bind
  intro modifiers _
  apply hs.token hn
  intro name _ _ _
  apply (hs.typeOr hn name).bind
  intro type _
  exact (hs.expr? hn).map

theorem closure (hs : s.Locates m) (hn : n.IsPartOf m) : s.Reports m (s.closure n) := by
  have hparameters : s.Reports m (s.closureParameters n) := by
    rw [closureParameters]
    split
    · have hall : s.Reports m ((n.nodes .parameter).mapM s.parameter) :=
        .mapM fun c hc => hs.parameter (hn.child hc)
      exact hall.map
    · exact .ok
  apply hparameters.bind
  intro parameters _
  exact (hs.bodyOr hn n.span).map

theorem stringValue (hs : s.Locates m) (hn : n.IsPartOf m) (t : Token) :
    s.Reports m (s.stringValue n t) := by
  rw [Scope.stringValue]
  split
  · exact .ok
  · exact hs.refuse hn _

theorem methodName (hs : s.Locates m) (hn : n.IsPartOf m) (t : Token) :
    s.Reports m (s.methodName n t) := by
  rw [Scope.methodName]
  split
  · exact hs.stringValue hn t
  · exact .ok

theorem returnType (hs : s.Locates m) (hn : n.IsPartOf m) (name : Token) :
    s.Reports m (s.returnType n name) := by
  rw [Scope.returnType]
  split
  · exact .ok
  · next returns hreturns =>
    have hpart := hn.child? hreturns
    split
    · next type htype => exact hs.typeRef (hpart.child? htype)
    · split
      · exact .ok
      · exact hs.refuse hpart _

theorem methodBody (hs : s.Locates m) (hn : n.IsPartOf m) : s.Reports m (s.methodBody n) := by
  rw [Scope.methodBody]
  split
  · next child hchild => exact (hs.block (hn.child? hchild)).map
  · exact .ok

theorem method (hs : s.Locates m) (hn : n.IsPartOf m) : s.Reports m (s.method n) := by
  apply (hs.modifiers hn).bind
  intro modifiers _
  apply hs.token hn
  intro nameToken _ _ _
  apply (hs.methodName hn nameToken).bind
  intro name _
  apply (hs.returnType hn nameToken).bind
  intro type _
  apply hs.node hn
  intro list _ hlist
  have hparameters : s.Reports m ((list.nodes .parameter).mapM s.parameter) :=
    .mapM fun c hc => hs.parameter (hlist.child hc)
  apply hparameters.bind
  intro parameters _
  exact (hs.methodBody hn).map

end Scope.Locates

end GroovyLowering
