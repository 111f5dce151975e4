import GroovyLowering.Proofs.Origin.Basic

/-!
# The spans of types, declarations and statement lists

One theorem per construct, named after its lowering: in a scope that gives good spans, the
construct is lowered to a result with good spans.

Most spans are those of a node or a token at hand.  The first of several declarators is the
exception, since its span starts where the whole construct starts and ends where the declarator
ends.
-/

namespace GroovyLowering

open Lowered (Ensures Keeps)

theorem Origin.keep_namedType {O : Origin} {n : Node} (h : O.node n) :
    n.namedType.mapSpans O.keep = n.namedType := by
  simp [Node.namedType, TypeRef.named, O.keep_span h]

namespace Scope.From

variable {O : Origin} {s : Scope} {n : Node}

/-! ## Types -/

mutual

theorem typeRef (n : Node) (h : O.node n) : (s.typeRef n).Keeps (TypeRef.mapSpans O.keep) := by
  rw [typeRef_eq]
  split
  · next child hchild =>
    have := Node.size_lt_of_node? hchild
    refine (classType child (O.child? h hchild rfl)).bind fun type htype => .pure ?_
    refine TypeRef.withSpan_stays ?_ (O.keep_span h)
    rw [TypeRef.withDimensions_mapSpans]
    congr 1
    split
    · have hshape := TypeShape.withGenerics_mapSpans O.keep none type.shape
      rw [(TypeRef.stays_iff.1 htype).1] at hshape
      exact TypeRef.stays_iff.2 ⟨hshape, (TypeRef.stays_iff.1 htype).2⟩
    · exact htype
  · split
    · next t ht =>
      refine .ok (TypeRef.withSpan_stays ?_ (O.keep_span h))
      rw [TypeRef.withDimensions_mapSpans]
      simp [O.keep_token h ht]
    · exact .refuse
termination_by n.size

theorem classType (n : Node) (h : O.node n) :
    (s.classType n).Keeps (TypeRef.mapSpans O.keep) := by
  rw [classType_eq]
  refine .node fun name hname => ?_
  split
  · next child hchild =>
    have := Node.size_lt_of_node? hchild
    refine (typeArguments child (O.child? h hchild rfl)).bind fun generics hgenerics => ?_
    refine .pure (TypeRef.stays_iff.2 ⟨?_, O.keep_span h⟩)
    simp [Node.namedType, TypeRef.named, TypeShape.withGenerics, hgenerics]
  · have hnamed := O.keep_namedType (O.child h hname rfl)
    exact .pure (TypeRef.withSpan_stays hnamed (O.keep_span h))
termination_by n.size

theorem typeArguments (n : Node) (h : O.node n) :
    (s.typeArguments n).Keeps (List.map (TypeArgument.mapSpans O.keep)) := by
  rw [typeArguments_eq]
  refine .mapM fun child hchild => ?_
  have := Node.size_lt_of_mem_nodes hchild
  exact typeArgument child (O.child h hchild rfl)
termination_by n.size

theorem typeArgument (n : Node) (h : O.node n) :
    (s.typeArgument n).Keeps (TypeArgument.mapSpans O.keep) := by
  have hspan := O.keep_span h
  rw [typeArgument_eq]
  split
  · have hbound : (s.wildcardBound n).Keeps (Option.map (TypeRef.mapSpans O.keep)) := by
      rw [Scope.wildcardBound]
      split
      · next child hchild =>
        have := Node.size_lt_of_node? hchild
        exact (typeRef child (O.child? h hchild rfl)).present
      · exact .missing
    refine hbound.bind fun bound hbound => ?_
    rw [Scope.wildcardOf]
    split
    · exact .ok (by simp [hspan])
    · split
      · exact .ok (by simp [hspan, hbound])
      · split
        · exact .ok (by simp [hspan, hbound])
        · exact .refuse
  · split
    · next child hchild =>
      have := Node.size_lt_of_node? hchild
      refine (typeRef child (O.child? h hchild rfl)).bind fun type htype => .pure ?_
      simp [hspan, htype]
    · exact .refuse
termination_by n.size

end

theorem typeArguments? (h : O.node n) :
    (s.typeArguments? n).Keeps (Option.map (List.map (TypeArgument.mapSpans O.keep))) := by
  rw [Scope.typeArguments?]
  split
  · next child hchild => exact (typeArguments child (O.child? h hchild rfl)).present
  · exact .missing

theorem typeOr (h : O.node n) {name : Token} (hname : O.keep name.span = name.span) :
    (s.typeOr n name).Keeps (TypeRef.mapSpans O.keep) := by
  rw [Scope.typeOr]
  split
  · next child hchild => exact typeRef child (O.child? h hchild rfl)
  · exact .ok (by simp [TypeRef.dynamic, hname])

/-! ## Annotations and modifiers -/

theorem setMember_stays {members : List (String × Expr)}
    (hmembers : members.map (Prod.map id (Expr.mapSpans O.keep)) = members) {name : String}
    {e : Expr} (he : e.mapSpans O.keep = e) :
    (setMember name e members).map (Prod.map id (Expr.mapSpans O.keep)) =
      setMember name e members := by
  induction members with
  | nil => simp [setMember, he]
  | cons m members ih =>
    rw [List.map_cons, List.cons.injEq] at hmembers
    rw [setMember]
    split
    · simp [he, hmembers.2]
    · rw [List.map_cons, hmembers.1, ih hmembers.2]

mutual

theorem annotationUse (hs : s.From O) (n : Node) (h : O.node n) :
    (s.annotationUse n).Keeps (.mapSpans O.keep) := by
  have hspan := O.keep_span h
  rw [annotationUse_eq]
  refine .skip fun name => ?_
  refine Keeps.bind (g := List.map (Prod.map id (Expr.mapSpans O.keep))) (.foldlM ?_ rfl) ?_
  · intro members hmembers pair hpair
    have := Node.size_lt_of_mem_nodes hpair
    exact annotationMember hs pair (O.child h hpair rfl) hmembers
  · intro members hmembers
    split
    · next child hchild =>
      have := Node.size_lt_of_node? hchild
      refine (elementValue hs child (O.child? h hchild rfl)).bind fun e he => .pure ?_
      simp [hspan, setMember_stays hmembers he]
    · exact .pure (by simp [hspan, hmembers])
termination_by n.size

theorem annotationMember (hs : s.From O) (n : Node) (h : O.node n) {members : List (String × Expr)}
    (hmembers : members.map (Prod.map id (Expr.mapSpans O.keep)) = members) :
    (s.annotationMember members n).Keeps (List.map (Prod.map id (Expr.mapSpans O.keep))) := by
  rw [Scope.annotationMember]
  refine .skip fun name => ?_
  split
  · next child hchild =>
    have := Node.size_lt_of_node? hchild
    refine (elementValue hs child (O.child? h hchild rfl)).bind fun e he => ?_
    split
    · exact .error
    · exact .pure (by simp [hmembers, he])
  · exact .refuse
termination_by n.size

theorem elementValue (hs : s.From O) (n : Node) (h : O.node n) :
    (s.elementValue n).Keeps (Expr.mapSpans O.keep) := by
  rw [elementValue_eq]
  split
  · next child hchild => exact hs.expr (O.child? h hchild rfl)
  · split
    · next child hchild =>
      have := Node.size_lt_of_node? hchild
      refine (annotationUse hs child (O.child? h hchild rfl)).bind fun a ha => .pure ?_
      simp [O.keep_span h, ha]
    · split
      · next array harray =>
        have hsize := Node.size_lt_of_node? harray
        have hnode := O.child? h harray rfl
        have helements : ((array.nodes .element).mapM s.elementValue).Keeps
            (List.map (Expr.mapSpans O.keep)) := by
          refine .mapM fun x hx => ?_
          have := Nat.lt_trans (Node.size_lt_of_mem_nodes hx) hsize
          exact elementValue hs x (O.child hnode hx rfl)
        exact helements.bind fun es hes => .pure (by simp [O.keep_span hnode, hes])
      · exact .refuse
termination_by n.size

end

theorem annotations (hs : s.From O) (h : O.node n) :
    (s.annotations n).Keeps (List.map (.mapSpans O.keep)) :=
  .mapM fun a ha => hs.annotationUse a (O.child h ha rfl)

theorem modifier (hs : s.From O) (h : O.node n) :
    Ensures (s.modifier n) fun m => ∀ a ∈ m.attached, a.mapSpans O.keep = a := by
  rw [Scope.modifier]
  split
  · next child hchild =>
    refine Ensures.bind (hs.annotationUse child (O.child? h hchild rfl)) fun a ha => ?_
    refine .pure fun b hb => ?_
    cases hb
    exact ha
  · refine .skip fun keyword => ?_
    split
    · refine .pure fun b hb => ?_
      cases hb
    · exact .refuse

theorem modifiers (hs : s.From O) (h : O.node n) :
    Ensures (s.modifiers n) fun m => m.annotations.map (.mapSpans O.keep) =
      m.annotations := by
  rw [Scope.modifiers]
  split
  · next list hlist =>
    have hnode := O.child? h hlist rfl
    refine Ensures.bind (.mapM fun m hm => hs.modifier (O.child hnode hm rfl)) ?_
    intro ms hms
    refine .pure (map_eq_self fun a ha => ?_)
    obtain ⟨m, hm, ha⟩ := List.mem_filterMap.1 ha
    exact hms m hm a ha
  · exact .ok rfl

/-! ## Declarations -/

theorem initializer (hs : s.From O) (n : Node) (h : O.node n) :
    (s.initializer n).Keeps (Expr.mapSpans O.keep) := by
  rw [initializer_eq]
  split
  · next array harray =>
    have hsize := Node.size_lt_of_node? harray
    have hnode := O.child? h harray rfl
    have helements : ((array.nodes .element).mapM s.initializer).Keeps
        (List.map (Expr.mapSpans O.keep)) := by
      refine .mapM fun x hx => ?_
      have := Nat.lt_trans (Node.size_lt_of_mem_nodes hx) hsize
      exact initializer hs x (O.child hnode hx rfl)
    exact helements.bind fun es hes => .pure (by simp [O.keep_span h, hes])
  · refine hs.operand h rfl fun e he => .pure ?_
    exact Expr.withSpan_stays he (O.keep_span h)
termination_by n.size

theorem initializerOr (hs : s.From O) (h : O.node n) {fallback : Span}
    (hfallback : O.keep fallback = fallback) :
    (s.initializerOr n fallback).Keeps (Expr.mapSpans O.keep) := by
  rw [Scope.initializerOr]
  split
  · next child hchild => exact hs.initializer child (O.child? h hchild rfl)
  · exact .ok (by simp [Expr.nothing, hfallback])

section Declaration

variable {m : ModifierSet}

/-- The statement of a declaration has the spans of the declaration, of its annotations and its
own. -/
theorem declare_stays (hm : m.annotations.map (.mapSpans O.keep) = m.annotations)
    {d : Declaration} (hd : d.mapSpans O.keep = d) {span : Span} (hspan : O.keep span = span) :
    (Scope.declare m d span).mapSpans O.keep =
      Scope.declare m d span := by
  obtain ⟨⟨name, type, flags⟩, nameSpan, initializer, slot, annotations⟩ := d
  simp only [Declaration.mapSpans, Declaration.mk.injEq, Variable.mapSpans, Variable.mk.injEq,
    mapSpansInAnnotations_eq, true_and, and_true] at hd
  simp [Scope.declare, ModifierSet.applyToDeclaration, ModifierSet.applyToVariable,
    hd, hm, hspan]

theorem declarator (hs : s.From O) (h : O.node n)
    (hm : m.annotations.map (.mapSpans O.keep) = m.annotations) {d : Node}
    (hd : d ∈ n.nodes .declarator) {span : Span}
    (hspan : ∀ t, d.token? .name = some t → O.keep span = span) :
    (s.declarator n m span d).Keeps (Stmt.mapSpans O.keep) := by
  have hnode := O.child h hd rfl
  refine .token fun name hname => ?_
  have hkeep := O.keep_token hnode hname
  refine (typeOr h hkeep).bind fun type htype => ?_
  refine (hs.initializerOr hnode (O.keep_span hnode)).bind fun e he => .pure ?_
  refine declare_stays hm ?_ (hspan name hname)
  simp [htype, he, hkeep]

/-- The declarators of a construct.  The first of several takes in what stands before it. -/
theorem declarators (hs : s.From O) (h : O.node n)
    (hm : m.annotations.map (.mapSpans O.keep) = m.annotations) {ds : List Node}
    (hds : ∀ d ∈ ds, d ∈ n.nodes .declarator) :
    (s.declarators n m ds).Keeps (List.map (Stmt.mapSpans O.keep)) := by
  cases ds with
  | nil => exact .refuse
  | cons d others =>
    have hd := hds d List.mem_cons_self
    cases others with
    | nil =>
      refine (hs.declarator h hm hd fun _ _ => O.keep_span h).bind fun x hx => .pure ?_
      rw [List.map_singleton, hx]
    | cons d' others =>
      refine (hs.declarator h hm hd fun _ => O.keep_declarator h hd).bind fun x hx => ?_
      have hothers : ((d' :: others).mapM fun e => s.declarator n m e.span e).Keeps
          (List.map (Stmt.mapSpans O.keep)) := by
        refine .mapM fun e he => ?_
        have he := hds e (List.mem_cons_of_mem _ he)
        exact hs.declarator h hm he fun _ _ => O.keep_span (O.child h he rfl)
      refine hothers.bind fun xs hxs => .pure ?_
      rw [List.map_cons, hx, hxs]

theorem tuple (hs : s.From O) (h : O.node n)
    (hm : m.annotations.map (.mapSpans O.keep) = m.annotations) {pairs : List Node}
    (hpairs : ∀ pair ∈ pairs, O.node pair) :
    (s.tuple n m pairs).Keeps (List.map (Stmt.mapSpans O.keep)) := by
  rw [Scope.tuple]
  split
  · refine (hs.initializerOr h (O.keep_span h)).bind fun e he => .mapM fun entry hentry => ?_
    obtain ⟨pair, index⟩ := entry
    have hpair := hpairs pair (List.fst_mem_of_mem_zipIdx hentry)
    refine .token fun name hname => ?_
    refine (typeOr hpair (O.keep_token hpair hname)).bind fun type htype => .pure ?_
    refine declare_stays hm ?_ (O.keep_span h)
    simp [htype, he, O.keep_span hpair]
  · exact .refuse

theorem localVariable (hs : s.From O) (h : O.node n) :
    (s.localVariable n).Keeps (List.map (Stmt.mapSpans O.keep)) := by
  refine Keeps.given (hs.modifiers h) fun m hm => ?_
  split
  · next pairs hpairs =>
    have hnode := O.child? h hpairs rfl
    exact hs.tuple h hm fun pair hpair => O.child hnode hpair rfl
  · exact hs.declarators h hm fun d hd => hd

end Declaration

/-! ## Statement lists -/

theorem blockStatement (hs : s.From O) (n : Node) (h : O.node n) :
    (s.blockStatement n).Keeps (List.map (Stmt.mapSpans O.keep)) := by
  rw [blockStatement_eq]
  split
  · exact hs.localVariable h
  · refine .skip fun label => ?_
    split
    · next child hchild =>
      have := Node.size_lt_of_node? hchild
      refine (blockStatement hs child (O.child? h hchild rfl)).bind fun xs hxs => .pure ?_
      have hlabel : Stmt.mapSpans O.keep ∘ Stmt.withLabel label.text =
          Stmt.withLabel label.text ∘ Stmt.mapSpans O.keep := by
        funext x
        cases x
        rfl
      rw [List.map_map, hlabel, ← List.map_map, hxs]
    · exact .refuse
  · exact .refuse
  · exact .refuse
  · refine (hs.stmt h).bind fun x hx => .pure ?_
    rw [List.map_singleton, hx]
termination_by n.size

theorem statements (hs : s.From O) (h : ∀ c ∈ n.nodes .statement, O.node c) :
    (s.statements n).Keeps (List.map (Stmt.mapSpans O.keep)) := by
  have hlists : ((n.nodes .statement).mapM s.blockStatement).Keeps
      (List.map (List.map (Stmt.mapSpans O.keep))) :=
    .mapM fun c hc => hs.blockStatement c (h c hc)
  refine hlists.bind fun xs hxs => .pure ?_
  rw [List.map_flatten, hxs]

theorem statements_of_node (hs : s.From O) (h : O.node n) :
    (s.statements n).Keeps (List.map (Stmt.mapSpans O.keep)) :=
  hs.statements fun _ hc => O.child h hc rfl

theorem block (hs : s.From O) (h : O.node n) : (s.block n).Keeps (Stmt.mapSpans O.keep) := by
  refine (hs.statements_of_node h).bind fun xs hxs => .pure ?_
  simp [Stmt.block, hxs, O.keep_span h]

/-- A body without tokens has no statements and stands at the place of its construct. -/
theorem body (hs : s.From O) (h : O.node n) :
    (s.body n n.span).Keeps (Stmt.mapSpans O.keep) := by
  rw [Scope.body]
  split
  · next list hlist =>
    have hbody := O.body h (List.mem_of_head? hlist)
    have hstatements : ∀ c ∈ list.nodes .statement, O.node c := by
      intro c hc
      rcases hbody with hnode | hhollow
      · exact O.child hnode hc rfl
      · rw [hhollow.statements] at hc
        cases hc
    have hspan : O.keep (list.spanOr n.span) = list.spanOr n.span := by
      rcases hbody with hnode | hhollow
      · exact O.keep_spanOr hnode (O.place_span h)
      · rw [Node.spanOr_of_eq_nil hhollow.allTokens, O.keep_span h]
    refine (hs.statements hstatements).bind fun xs hxs => .pure ?_
    simp [Stmt.block, hxs, hspan]
  · exact .ok (by simp [Stmt.block, O.keep_span h])

/-! ## Closures and methods -/

theorem parameter (hs : s.From O) (h : O.node n) :
    (s.parameter n).Keeps (Parameter.mapSpans O.keep) := by
  refine Keeps.given (hs.modifiers h) fun m hm => ?_
  refine .token fun name hname => (typeOr h (O.keep_token h hname)).bind fun type htype => ?_
  refine (hs.expr? h rfl).bind fun value hvalue => .pure ?_
  have hvariadic : (Scope.variadic n type).mapSpans O.keep =
      Scope.variadic n type := by
    rw [Scope.variadic]
    split
    · next dots hdots =>
      refine TypeRef.withSpan_stays ?_ (O.keep_token h hdots)
      rw [TypeRef.arrayOf_mapSpans, htype]
    · exact htype
  simp [ModifierSet.applyToParameter, hvariadic, hvalue, hm, O.keep_span h]

theorem parameters (hs : s.From O) (h : O.node n) :
    ((n.nodes .parameter).mapM s.parameter).Keeps (List.map (Parameter.mapSpans O.keep)) :=
  .mapM fun _ hc => hs.parameter (O.child h hc rfl)

theorem closure (hs : s.From O) (h : O.node n) : (s.closure n).Keeps (Expr.mapSpans O.keep) := by
  have hparameters : (s.closureParameters n).Keeps (ClosureParameters.mapSpans O.keep) := by
    rw [Scope.closureParameters]
    split
    · exact (hs.parameters h).bind fun ps hps => .pure (by simp [hps])
    · exact .ok rfl
  refine hparameters.bind fun p hp => (hs.body h).bind fun code hcode => .pure ?_
  simp [hp, hcode, O.keep_span h]

theorem returnType (h : O.node n) {name : Token} (hname : O.keep name.span = name.span) :
    (s.returnType n name).Keeps (TypeRef.mapSpans O.keep) := by
  rw [Scope.returnType]
  split
  · exact .ok (by simp [TypeRef.dynamic, hname])
  · next returns hreturns =>
    have hnode := O.child? h hreturns rfl
    split
    · next type htype => exact typeRef type (O.child? hnode htype rfl)
    · split
      · exact .ok (by simp [O.keep_span hnode])
      · exact .refuse

theorem namedTypes (h : O.node n) {list : Node} {role : Role} (hlist : n.node? role = some list)
    (hrole : role.isBody = false) :
    ((list.nodes .element).map Node.namedType).map (TypeRef.mapSpans O.keep) =
      (list.nodes .element).map Node.namedType := by
  have hnode := O.child? h hlist hrole
  rw [List.map_map]
  exact List.map_congr_left fun c hc => O.keep_namedType (O.child hnode hc rfl)

theorem method (hs : s.From O) (h : O.node n) (hkind : n.kind = .methodDeclaration) :
    (s.method n).Keeps (MethodDecl.mapSpans O.keep) := by
  have hbody : (s.methodBody n).Keeps (Option.map (Stmt.mapSpans O.keep)) := by
    rw [Scope.methodBody]
    split
    · next child hchild =>
      exact (hs.block (O.ownBody h (Or.inr hkind) (List.mem_of_head? hchild))).present
    · exact .missing
  have hexceptions : (Scope.exceptions n).map (TypeRef.mapSpans O.keep) =
      Scope.exceptions n := by
    rw [Scope.exceptions]
    split
    · next list hlist => exact namedTypes h hlist rfl
    · rfl
  refine Keeps.given (hs.modifiers h) fun m hm => .token fun nameToken hname => ?_
  refine .skip fun name => (returnType h (O.keep_token h hname)).bind fun type htype => ?_
  refine .node fun list hlist => ?_
  refine (hs.parameters (O.child h hlist rfl)).bind fun ps hps => ?_
  refine hbody.bind fun b hb => .pure ?_
  simp [MethodDecl.mapSpans, ModifierSet.applyToMethod, htype, hps, hexceptions, hb, hm,
    O.keep_span h]

end Scope.From

end GroovyLowering
