import GroovyLowering.Proofs.Origin.Part

/-!
# The spans of expressions

One theorem per construct, as for declarations.  Paths and commands take a lowered expression apart
and build another one from it; that this moves no span is known from the functions that do it, which
commute with every replacement.
-/

namespace GroovyLowering

open Lowered (Keeps)

namespace Scope.From

variable {O : Origin} {s : Scope} {n : Node} {receiver : Expr}

/-! ## Arguments and subscripts -/

theorem element (hs : s.From O) (h : O.node n) : (s.element n).Keeps (Expr.mapSpans O.keep) := by
  refine hs.operand h rfl fun e he => ?_
  split
  · exact .pure (by simp [he, O.keep_span h])
  · exact .pure (Expr.withSpan_stays he (O.keep_span h))

theorem elements (hs : s.From O) (h : O.node n) :
    (s.elements n).Keeps (List.map (Expr.mapSpans O.keep)) :=
  .mapM fun _ hc => hs.element (O.child h hc rfl)

theorem key (hs : s.From O) (h : O.node n) : (s.key n).Keeps (Expr.mapSpans O.keep) := by
  rw [Scope.key]
  split
  · exact .ok (by simp [Expr.symbol, Expr.constant, O.keep_span h])
  · refine hs.operand h rfl fun e he => .pure ?_
    refine Expr.withSpan_stays ?_ (O.keep_span h)
    rw [Expr.asKey_mapSpans, he]

theorem mapEntry (hs : s.From O) (h : O.node n) :
    (s.mapEntry n).Keeps (MapEntry.mapSpans O.keep) := by
  refine hs.operand h rfl fun value hvalue => ?_
  split
  · exact .pure (by simp [hvalue, O.keep_span h])
  · refine .node fun label hlabel => ?_
    refine (hs.key (O.child h hlabel rfl)).bind fun key hkey => .pure ?_
    simp [hkey, hvalue, O.keep_span h]

theorem mapEntries (hs : s.From O) (h : O.node n) :
    (s.mapEntries n).Keeps (List.map (MapEntry.mapSpans O.keep)) :=
  .mapM fun _ hc => hs.mapEntry (O.child h hc rfl)

theorem argumentList (hs : s.From O) (h : O.node n) :
    (s.argumentList n).Keeps (Arguments.mapSpans O.keep) := by
  rw [Scope.argumentList]
  split
  · exact (hs.mapEntries h).bind fun ms hms => .pure (by simp [hms, O.keep_span h])
  · exact (hs.elements h).bind fun es hes => .pure (by simp [hes, O.keep_span h])

theorem arguments (hs : s.From O) (h : O.node n) :
    (s.arguments n).Keeps (Arguments.mapSpans O.keep) := by
  rw [Scope.arguments]
  split
  · next list hlist =>
    refine (hs.argumentList (O.child? h hlist rfl)).bind fun a ha => .pure ?_
    rw [Arguments.withSpan_mapSpans, ha, O.keep_span h]
  · exact .ok (by simp [O.keep_span h])

theorem subscript (hs : s.From O) (h : O.node n) :
    (s.subscript n).Keeps (Expr.mapSpans O.keep) := by
  refine (hs.elements h).bind fun es hes => .pure ?_
  rw [indexOf_mapSpans, hes, O.keep_span h]

/-! ## Paths -/

theorem namePart (hs : s.From O) (h : O.node n) : (s.namePart n).Keeps (Expr.mapSpans O.keep) := by
  rw [Scope.namePart]
  split
  · exact .ok (by simp [Expr.symbol, Expr.constant, O.keep_span h])
  · split
    · exact .skip fun value => .pure (by simp [Expr.constant, O.keep_span h])
    · split
      · next child hchild =>
        refine (hs.expr (O.child? h hchild rfl)).bind fun e he => .pure ?_
        exact Expr.withSpan_stays he (O.keep_span h)
      · exact .refuse

theorem member (hs : s.From O) (hreceiver : receiver.mapSpans O.keep = receiver) (h : O.node n)
    {namePart : Node} (hname : O.node namePart) :
    (s.member receiver n namePart).Keeps (Expr.mapSpans O.keep) := by
  refine (hs.namePart hname).bind fun name hname => ?_
  refine (typeArguments? h).bind fun generics hgenerics => ?_
  have hshape := memberShape?_mapSpans O.keep receiver name generics (n.has .atSign)
    ((n.token? .operator).map Token.text)
  rw [hreceiver, hname, hgenerics] at hshape
  dsimp only
  split
  · next shape hsome =>
    rw [hsome, Option.map_some, Option.some.injEq] at hshape
    exact .pure (by simp [hshape, O.keep_span h])
  · exact .refuse

theorem pathElement (hs : s.From O) (hreceiver : receiver.mapSpans O.keep = receiver)
    (h : O.node n) : (s.pathElement receiver n).Keeps (Expr.mapSpans O.keep) := by
  rw [Scope.pathElement]
  split
  · next child hchild => exact hs.member hreceiver h (O.child? h hchild rfl)
  · split
    · next child hchild =>
      refine (hs.subscript (O.child? h hchild rfl)).bind fun e he => .pure ?_
      simp [hreceiver, he, O.keep_span h]
    · split
      · next child hchild =>
        refine (hs.arguments (O.child? h hchild rfl)).bind fun a ha => ?_
        refine .of_mapSpans ?_
        rw [Expr.applyArguments_mapSpans, hreceiver, ha, O.keep_span h]
      · split
        · next child hchild =>
          refine (hs.closure (O.child? h hchild rfl)).bind fun c hc => .pure ?_
          rw [Expr.applyClosure_mapSpans, hreceiver, hc, O.keep_span h]
        · exact .refuse

theorem pathElements (hs : s.From O) (hreceiver : receiver.mapSpans O.keep = receiver)
    {elements : List Node} (h : ∀ c ∈ elements, O.node c) :
    (s.pathElements receiver elements).Keeps (Expr.mapSpans O.keep) :=
  .foldlM (fun _ he c hc => hs.pathElement he (h c hc)) hreceiver

theorem path (hs : s.From O) (h : O.node n) : (s.path n).Keeps (Expr.mapSpans O.keep) := by
  refine hs.operand h rfl fun e he => ?_
  refine (hs.pathElements he fun c hc => O.child h hc rfl).bind fun e he => .pure ?_
  exact Expr.withSpan_stays he (O.keep_span h)

/-! ## Commands -/

theorem commandHead {base : Expr} (hbase : base.mapSpans O.keep = base)
    {arguments : Option Arguments}
    (harguments : arguments.map (Arguments.mapSpans O.keep) = arguments) (n : Node) :
    (s.commandHead n base arguments).Keeps (Expr.mapSpans O.keep) := by
  have hgiven : (arguments.getD (.positional [] base.span)).mapSpans O.keep =
      arguments.getD (.positional [] base.span) := by
    cases arguments with
    | none => simp [(Expr.stays_iff.1 hbase).2]
    | some a => exact Option.some.inj harguments
  rw [commandHead_eq]
  split
  · cases arguments with
    | none => exact .ok hbase
    | some a => exact .refuse
  · refine .ok ?_
    rw [headCall_mapSpans, hbase, hgiven]

theorem commandArgument (hs : s.From O) (hreceiver : receiver.mapSpans O.keep = receiver)
    (h : O.node n) : (s.commandArgument receiver n).Keeps (Expr.mapSpans O.keep) := by
  refine hs.operand h rfl fun primary hprimary => ?_
  have hspan : O.keep primary.span = primary.span := (Expr.stays_iff.1 hprimary).2
  have hname : primary.asName.mapSpans O.keep = primary.asName := by
    rw [Expr.asName_mapSpans, hprimary]
  have hmethod : primary.asMethod.mapSpans O.keep = primary.asMethod := by
    rw [Expr.asMethod_mapSpans, hprimary]
  split
  · next list hlist =>
    split
    · exact .refuse
    · refine (hs.argumentList (O.child? h hlist rfl)).bind fun a ha => .pure ?_
      simp [hreceiver, hname, ha, O.keep_span h]
  · split
    · have hproperty : ({ shape := .property { object := receiver, member := primary.asName }
                          span := primary.span } : Expr).mapSpans O.keep =
          { shape := .property { object := receiver, member := primary.asName }
            span := primary.span } := by
        simp [hreceiver, hname, hspan]
      refine (hs.pathElements hproperty fun c hc => O.child h hc rfl).bind fun e he => ?_
      exact .pure (Expr.withSpan_stays he (O.keep_span h))
    · exact .pure (by simp [hreceiver, hmethod, hspan])

theorem command (hs : s.From O) (h : O.node n) : (s.command n).Keeps (Expr.mapSpans O.keep) := by
  have harguments : (s.argumentList? n).Keeps (Option.map (Arguments.mapSpans O.keep)) := by
    rw [argumentList?]
    split
    · next list hlist => exact (hs.argumentList (O.child? h hlist rfl)).present
    · exact .missing
  rw [command_eq]
  refine hs.operand h rfl fun base hbase => ?_
  refine harguments.bind fun a ha => (commandHead hbase ha n).bind fun head hhead => ?_
  refine Keeps.bind (.foldlM (fun e he w hw => ?_) hhead) fun e he => .pure ?_
  · exact hs.commandArgument he (O.child h hw rfl)
  · exact Expr.withSpan_stays he (O.keep_span h)

/-! ## Creators and interpolated strings -/

theorem createdType (h : O.node n) : (s.createdType n).Keeps (TypeRef.mapSpans O.keep) := by
  rw [Scope.createdType]
  split
  · exact .ok (by simp [O.keep_span h])
  · refine .node fun name hname => (typeArguments? h).bind fun generics hgenerics => ?_
    have hnamed := O.keep_namedType (O.child h hname rfl)
    split
    · refine .pure (TypeRef.stays_iff.2 ⟨?_, O.keep_span h⟩)
      rw [TypeShape.withGenerics_mapSpans, (TypeRef.stays_iff.1 hnamed).1, hgenerics]
    · exact .pure (TypeRef.withSpan_stays hnamed (O.keep_span h))

theorem creator (hs : s.From O) (h : O.node n) : (s.creator n).Keeps (Expr.mapSpans O.keep) := by
  refine .node fun name hname => ?_
  refine (createdType (O.child h hname rfl)).bind fun type htype => ?_
  split
  · next child hchild =>
    refine (hs.arguments (O.child? h hchild rfl)).bind fun a ha => .pure ?_
    simp [htype, ha, O.keep_span h]
  · split
    · have hsizes : ((n.nodes .dimension).mapM s.expr).Keeps (List.map (Expr.mapSpans O.keep)) :=
        .mapM fun c hc => hs.expr (O.child h hc rfl)
      have hopen : ((n.tokens .emptyDimension).map fun t => Expr.null t.span).map
          (Expr.mapSpans O.keep) = (n.tokens .emptyDimension).map fun t => Expr.null t.span := by
        rw [List.map_map]
        refine List.map_congr_left fun t ht => ?_
        simp [Expr.null, Expr.constant, O.keep_of_good (O.good_token h ht)]
      refine hsizes.bind fun sizes hsizes => .pure ?_
      simp only [Expr.mapSpans, ExprShape.mapSpans, mapSpansInExprs_eq, List.map_append, htype,
        hsizes, hopen, O.keep_span h]
    · exact .refuse

theorem dotted_stays {ts : List Token} (hts : ∀ t ∈ ts, O.keep t.span = t.span) {e : Expr}
    (he : e.mapSpans O.keep = e) :
    (ts.foldl Expr.dotted e).mapSpans O.keep = ts.foldl Expr.dotted e := by
  induction ts generalizing e with
  | nil => exact he
  | cons t ts ih =>
    obtain ⟨ht, hts⟩ := List.forall_mem_cons.1 hts
    refine ih hts ?_
    simp [Expr.dotted, Expr.symbol, Expr.constant, he, ht]

theorem gstringPath (h : O.node n) : (s.gstringPath n).Keeps (Expr.mapSpans O.keep) := by
  refine .token fun name hname => .pure ?_
  refine dotted_stays (fun t ht => O.keep_of_good (O.good_token h ht)) ?_
  simp [Expr.named, TypeRef.dynamic, O.keep_token h hname]

theorem gstringValue (hs : s.From O) (h : O.node n) :
    (s.gstringValue n).Keeps (Expr.mapSpans O.keep) := by
  rw [Scope.gstringValue]
  split
  · next child hchild =>
    refine (gstringPath (O.child? h hchild rfl)).bind fun e he => .pure ?_
    exact Expr.withSpan_stays he (O.keep_span h)
  · split
    · next child hchild =>
      refine (hs.expr (O.child? h hchild rfl)).bind fun e he => .pure ?_
      exact Expr.withSpan_stays he (O.keep_span h)
    · split
      · next child hchild =>
        refine (hs.closure (O.child? h hchild rfl)).bind fun closure hclosure => ?_
        split
        · exact .pure (Expr.withSpan_stays hclosure (O.keep_span h))
        · exact .pure (by simp [Expr.symbol, Expr.constant, hclosure, O.keep_span h])
      · exact .ok (by simp [Expr.null, Expr.constant, O.keep_span h])

theorem gstring (hs : s.From O) (h : O.node n) : (s.gstring n).Keeps (Expr.mapSpans O.keep) := by
  refine .token fun first hfirst => .token fun last hlast => ?_
  have hvalues : ((n.nodes .value).mapM s.gstringValue).Keeps (List.map (Expr.mapSpans O.keep)) :=
    .mapM fun c hc => hs.gstringValue (O.child h hc rfl)
  have hparts : ∀ decode, ((n.tokens .part).map (segment decode)).map (Expr.mapSpans O.keep) =
      (n.tokens .part).map (segment decode) := by
    intro decode
    rw [List.map_map]
    refine List.map_congr_left fun t ht => ?_
    simp [segment, Expr.symbol, Expr.constant, O.keep_of_good (O.good_token h ht)]
  refine hvalues.bind fun values hvalues => .pure ?_
  simp only [Expr.mapSpans, ExprShape.mapSpans, mapSpansInExprs_eq, List.map_cons, List.map_append,
    List.map_nil, hparts, hvalues, O.keep_span h]
  simp [segment, Expr.symbol, Expr.constant, O.keep_token h hfirst, O.keep_token h hlast]

/-! ## Operators -/

theorem stepAfter (hs : s.From O) (h : O.node n) :
    (s.stepAfter n).Keeps (Expr.mapSpans O.keep) := by
  refine hs.operand h rfl fun e he => .skip fun op => ?_
  split
  · exact .pure (by simp [he, hs.keep_spanOf h])
  · exact .refuse

theorem unary (hs : s.From O) (h : O.node n) : (s.unary n).Keeps (Expr.mapSpans O.keep) := by
  refine .skip fun op => .node fun c hc => (hs.expr (O.child h hc rfl)).bind fun e he => ?_
  split
  · split
    · exact .pure (Expr.withSpan_stays he (O.keep_span h))
    · exact .pure (by simp [he, O.keep_span h])
  · split
    · split
      · rw [negateConstant]
        split
        · exact .skip fun negated => .pure (by simp [Expr.constant, O.keep_span h])
        · exact .error
      · exact .pure (by simp [he, O.keep_span h])
    · split
      · exact .pure (by simp [he, O.keep_span h])
      · exact .refuse

theorem negation (hs : s.From O) (h : O.node n) :
    (s.negation n).Keeps (Expr.mapSpans O.keep) := by
  refine hs.operand h rfl fun e he => .skip fun op => ?_
  split
  · exact .pure (by simp [he, hs.keep_spanOf h])
  · split
    · exact .pure (by simp [he, hs.keep_spanOf h])
    · exact .refuse

theorem binary (hs : s.From O) (h : O.node n) : (s.binary n).Keeps (Expr.mapSpans O.keep) := by
  refine hs.operand h rfl fun left hleft => ?_
  refine hs.operand h rfl fun right hright => ?_
  have hshape := binaryShape?_mapSpans O.keep left right
    (String.join ((n.tokens .operator).map Token.text))
  rw [hleft, hright] at hshape
  split
  · next shape hsome =>
    rw [hsome, Option.map_some, Option.some.injEq] at hshape
    exact .pure (by simp [hshape, O.keep_span h])
  · exact .refuse

theorem assignment (hs : s.From O) (h : O.node n) :
    (s.assignment n).Keeps (Expr.mapSpans O.keep) := by
  refine .node fun l hl => (hs.expr (O.child h hl rfl)).bind fun left hleft => ?_
  split
  · refine .skip fun op => ?_
    split
    · refine hs.operand h rfl fun right hright => ?_
      exact .pure (by simp [hleft, hright, O.keep_span h])
    · exact .refuse
  · exact .error

theorem cast (hs : s.From O) (h : O.node n) : (s.cast n).Keeps (Expr.mapSpans O.keep) := by
  refine .node fun t ht => (typeRef t (O.child h ht rfl)).bind fun type htype => ?_
  refine hs.operand h rfl fun e he => .pure ?_
  simp [htype, he, hs.keep_spanOf h]

theorem typeTest (hs : s.From O) (h : O.node n) :
    (s.typeTest n).Keeps (Expr.mapSpans O.keep) := by
  refine hs.operand h rfl fun left hleft => ?_
  refine .node fun t ht => ?_
  have hnode := O.child h ht rfl
  refine (typeRef t hnode).bind fun type htype => .skip fun op => ?_
  split
  · exact .pure (by simp [htype, hleft, hs.keep_spanOf h])
  · split
    · exact .pure (by simp [htype, hleft, hs.keep_spanOf h, O.keep_span hnode])
    · exact .refuse

theorem conditional (hs : s.From O) (h : O.node n) :
    (s.conditional n).Keeps (Expr.mapSpans O.keep) := by
  refine .node fun c hc => ?_
  have hnode := O.child h hc rfl
  refine (hs.expr hnode).bind fun condition hcondition => ?_
  refine hs.operand h rfl fun no hno => ?_
  split
  · exact .pure (by simp [hcondition, hno, hs.keep_spanOf h])
  · refine hs.operand h rfl fun yes hyes => .pure ?_
    simp [Expr.truth, hcondition, hno, hyes, hs.keep_spanOf h, O.keep_span hnode]

/-! ## All expressions -/

theorem literal (h : O.node n) : (s.literal n).Keeps (Expr.mapSpans O.keep) :=
  .skip fun _ => .skip fun _ => .pure (by simp [Expr.constant, O.keep_span h])

theorem nameOf (hs : s.From O) (h : O.node n) (role : Role) :
    (s.nameOf n role).Keeps (Expr.mapSpans O.keep) :=
  .skip fun _ => .pure (by simp [Expr.named, TypeRef.dynamic, hs.keep_spanOf h])

theorem parenthesized (hs : s.From O) (h : O.node n) :
    (s.parenthesized n).Keeps (Expr.mapSpans O.keep) := by
  refine hs.operand h rfl fun e he => .pure ?_
  exact Expr.stays_iff.2 ⟨(Expr.stays_iff.1 he).1, O.keep_span h⟩

theorem list (hs : s.From O) (h : O.node n) : (s.list n).Keeps (Expr.mapSpans O.keep) :=
  (hs.elements h).bind fun _ hes => .pure (by simp [hes, hs.keep_spanOf h])

theorem map (hs : s.From O) (h : O.node n) : (s.map n).Keeps (Expr.mapSpans O.keep) :=
  (hs.mapEntries h).bind fun _ hms => .pure (by simp [hms, hs.keep_spanOf h])

theorem expression (hs : s.From O) (h : O.node n) :
    (s.expression n).Keeps (Expr.mapSpans O.keep) := by
  have hspan := hs.keep_spanOf h
  rw [Scope.expression]
  split
  · exact hs.path h
  · exact hs.command h
  · exact hs.element h
  · exact hs.stepAfter h
  · exact hs.unary h
  · exact hs.negation h
  · exact hs.cast h
  · exact hs.binary h
  · exact hs.typeTest h
  · exact hs.conditional h
  · exact hs.assignment h
  · exact hs.nameOf h .identifier
  · exact literal h
  · exact hs.gstring h
  · exact hs.creator h
  · exact .ok (by simp [Expr.self, Expr.named, TypeRef.dynamic, hspan])
  · exact .ok (by simp [Expr.named, TypeRef.dynamic, hspan])
  · exact hs.parenthesized h
  · exact hs.list h
  · exact hs.map h
  · exact hs.nameOf h .primitive
  · exact hs.closure h
  · exact .refuse

end Scope.From

end GroovyLowering
