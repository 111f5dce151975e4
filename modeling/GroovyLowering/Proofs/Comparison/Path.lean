import GroovyLowering.Proofs.Comparison.Operator

/-!
# Comparing arguments, paths and commands

A path and a command hand an expression from one element to the next, and each element looks at
what the expression is by now.  The views of the two expressions stay equal on the way: the
functions that look at them commute with `mapSpans`, so what they decide is the same
(`applyArguments`, `applyClosure`, `commandHead`).
-/

namespace GroovyLowering

namespace Comparison

variable {C : Comparison} {n m : Node} {s s' : Scope} {a b : Expr}

/-- Results that are the same after replacing spans agree. -/
theorem Agree.of_mapSpans {x y : Lowered Expr}
    (h : Lowered.mapSpans C.span x = Lowered.mapSpans C.span y) :
    C.Agree (Expr.mapSpans C.span) x y := by
  cases x with
  | ok a =>
    cases y with
    | ok b => exact Agree.ok (Except.ok.inj h)
    | error e => cases h
  | error e =>
    cases y with
    | ok b => cases h
    | error e' =>
      have := Except.error.inj h
      refine Agree.error ?_
      cases e <;> cases e' <;> simp_all [CompileError.mapSpans, Comparison.error]

theorem isCall_eq (hab : a.mapSpans C.span = b.mapSpans C.span) : a.isCall = b.isCall := by
  rw [← Expr.isCall_mapSpans C.span, hab, Expr.isCall_mapSpans]

theorem isAccess_eq (hab : a.mapSpans C.span = b.mapSpans C.span) : a.isAccess = b.isAccess := by
  rw [← Expr.isAccess_mapSpans C.span, hab, Expr.isAccess_mapSpans]

theorem span_eq_of_mapSpans (hab : a.mapSpans C.span = b.mapSpans C.span) :
    C.span a.span = C.span b.span :=
  (Expr.mapSpans_eq_iff.1 hab).2.1

theorem symbol_eq {t u : String} {p q : Span} (htu : t = u) (hpq : C.span p = C.span q) :
    (Expr.symbol t p).mapSpans C.span = (Expr.symbol u q).mapSpans C.span := by
  rw [Expr.symbol_mapSpans, Expr.symbol_mapSpans, htu, hpq]

theorem named_eq {t u : String} {p q : Span} (htu : t = u) (hpq : C.span p = C.span q) :
    (Expr.named t p).mapSpans C.span = (Expr.named u q).mapSpans C.span := by
  rw [Expr.named_mapSpans, Expr.named_mapSpans, htu, hpq]

theorem withArgumentsSpan_eq {x y : Arguments} (hxy : x.mapSpans C.span = y.mapSpans C.span)
    {p q : Span} (hpq : C.span p = C.span q) :
    (x.withSpan p).mapSpans C.span = (y.withSpan q).mapSpans C.span := by
  rw [Arguments.withSpan_mapSpans, Arguments.withSpan_mapSpans, hxy, hpq]

theorem applyArguments (hab : a.mapSpans C.span = b.mapSpans C.span) {x y : Arguments}
    (hxy : x.mapSpans C.span = y.mapSpans C.span) {p q : Span} (hpq : C.span p = C.span q) :
    C.Agree (Expr.mapSpans C.span) (a.applyArguments x p) (b.applyArguments y q) := by
  refine Agree.of_mapSpans ?_
  rw [Expr.applyArguments_mapSpans, Expr.applyArguments_mapSpans, hab, hxy, hpq]

theorem applyClosure (hab : a.mapSpans C.span = b.mapSpans C.span) {x y : Expr}
    (hxy : x.mapSpans C.span = y.mapSpans C.span) {p q : Span} (hpq : C.span p = C.span q) :
    (a.applyClosure x p).mapSpans C.span = (b.applyClosure y q).mapSpans C.span := by
  rw [Expr.applyClosure_mapSpans, Expr.applyClosure_mapSpans, hab, hxy, hpq]

namespace Scopes

/-! ## Arguments and subscripts -/

theorem element (hs : C.Scopes s s') (h : C.tree n m) :
    C.Agree (Expr.mapSpans C.span) (s.element n) (s'.element m) := by
  refine hs.bindNode h fun c d hcd => (hs.expr hcd).bind fun a b hab => ?_
  rw [C.has_eq h (by decide)]
  split
  · exact Agree.pure (by simp [hab, C.span_eq h])
  · exact Agree.pure (withSpan_eq hab (C.span_eq h))

theorem elements (hs : C.Scopes s s') (h : C.tree n m) :
    C.Agree (List.map (Expr.mapSpans C.span)) (s.elements n) (s'.elements m) :=
  Agree.mapM (C.nodes h _) fun _ _ => hs.element

theorem key (hs : C.Scopes s s') (h : C.tree n m) :
    C.Agree (Expr.mapSpans C.span) (s.key n) (s'.key m) := by
  have hspan := C.span_eq h
  rcases token?_cases h .keyword (by decide) with ⟨hn, hm⟩ | ⟨t, u, hn, hm, htu⟩
  · simp only [Scope.key, hn, hm]
    refine hs.bindNode h fun c d hcd => (hs.expr hcd).bind fun a b hab => Agree.pure ?_
    refine withSpan_eq ?_ hspan
    rw [Expr.asKey_mapSpans, Expr.asKey_mapSpans, hab]
  · simp only [Scope.key, hn, hm]
    exact Agree.ok (symbol_eq htu.text_eq hspan)

theorem mapEntry (hs : C.Scopes s s') (h : C.tree n m) :
    C.Agree (MapEntry.mapSpans C.span) (s.mapEntry n) (s'.mapEntry m) := by
  have hspan := C.span_eq h
  refine hs.bindNode h fun c d hcd => (hs.expr hcd).bind fun a b hab => ?_
  rw [C.has_eq h (by decide)]
  split
  · exact Agree.pure (by simp [hab, hspan])
  · refine hs.bindNode h fun c d hcd => (hs.key hcd).bind fun x y hxy => Agree.pure ?_
    simp [hab, hxy, hspan]

theorem mapEntries (hs : C.Scopes s s') (h : C.tree n m) :
    C.Agree (List.map (MapEntry.mapSpans C.span)) (s.mapEntries n) (s'.mapEntries m) :=
  Agree.mapM (C.nodes h _) fun _ _ => hs.mapEntry

theorem argumentList (hs : C.Scopes s s') (h : C.tree n m) :
    C.Agree (Arguments.mapSpans C.span) (s.argumentList n) (s'.argumentList m) := by
  have hspan := C.span_eq h
  rw [Scope.argumentList, Scope.argumentList, C.has_eq h (by decide)]
  split
  · exact (hs.mapEntries h).bind fun x y hxy => Agree.pure (by simp [hxy, hspan])
  · exact (hs.elements h).bind fun x y hxy => Agree.pure (by simp [hxy, hspan])

theorem arguments (hs : C.Scopes s s') (h : C.tree n m) :
    C.Agree (Arguments.mapSpans C.span) (s.arguments n) (s'.arguments m) := by
  rcases node?_cases h .list with ⟨hn, hm⟩ | ⟨c, d, hn, hm, hcd⟩
  · simp only [Scope.arguments, hn, hm]
    exact Agree.ok (by simp [C.span_eq h])
  · simp only [Scope.arguments, hn, hm]
    exact (hs.argumentList hcd).bind fun x y hxy =>
      Agree.pure (withArgumentsSpan_eq hxy (C.span_eq h))

theorem subscript (hs : C.Scopes s s') (h : C.tree n m) :
    C.Agree (Expr.mapSpans C.span) (s.subscript n) (s'.subscript m) := by
  refine (hs.elements h).bind fun x y hxy => Agree.pure ?_
  rw [indexOf_mapSpans, indexOf_mapSpans, hxy, C.span_eq h]

/-! ## Paths -/

theorem namePart (hs : C.Scopes s s') (h : C.tree n m) :
    C.Agree (Expr.mapSpans C.span) (s.namePart n) (s'.namePart m) := by
  have hspan := C.span_eq h
  have hword : ((n.token? .identifier).or (n.token? .keyword)).map Token.text =
      ((m.token? .identifier).or (m.token? .keyword)).map Token.text := by
    rw [Option.map_or, Option.map_or, text?_eq h (by decide), text?_eq h (by decide)]
  rw [Scope.namePart, Scope.namePart]
  revert hword
  cases (n.token? .identifier).or (n.token? .keyword) with
  | some t =>
    cases (m.token? .identifier).or (m.token? .keyword) with
    | some u => exact fun hword => Agree.ok (symbol_eq (Option.some.inj hword) hspan)
    | none => rintro ⟨⟩
  | none =>
    cases (m.token? .identifier).or (m.token? .keyword) with
    | some u => rintro ⟨⟩
    | none =>
      intro _
      rcases token?_cases h .literal (by decide) with ⟨hn, hm⟩ | ⟨t, u, hn, hm, htu⟩
      · simp only [hn, hm]
        rcases node?_cases h .dynamic with ⟨hn, hm⟩ | ⟨c, d, hn, hm, hcd⟩
        · simp only [hn, hm]
          exact hs.refuse h _
        · simp only [hn, hm]
          exact (hs.expr hcd).bind fun a b hab => Agree.pure (withSpan_eq hab hspan)
      · simp only [hn, hm]
        refine (hs.stringValue h htu).bind fun x y hxy => Agree.pure ?_
        obtain rfl : x = y := hxy
        simp [Expr.constant, hspan]

theorem member (hs : C.Scopes s s') (hab : a.mapSpans C.span = b.mapSpans C.span)
    (h : C.tree n m) {c d : Node} (hcd : C.tree c d) :
    C.Agree (Expr.mapSpans C.span) (s.member a n c) (s'.member b m d) := by
  refine (hs.namePart hcd).bind fun x y hxy => ?_
  refine (hs.typeArguments? h).bind fun ts us htu => ?_
  refine hs.shapeOr h _ _ _ ?_
  rw [memberShape?_mapSpans, memberShape?_mapSpans, hab, hxy, htu, text?_eq h (by decide),
    C.has_eq h (by decide)]

theorem pathElement (hs : C.Scopes s s') (hab : a.mapSpans C.span = b.mapSpans C.span)
    (h : C.tree n m) :
    C.Agree (Expr.mapSpans C.span) (s.pathElement a n) (s'.pathElement b m) := by
  have hspan := C.span_eq h
  rcases node?_cases h .namePart with ⟨hn, hm⟩ | ⟨c, d, hn, hm, hcd⟩
  · rw [Scope.pathElement, Scope.pathElement, hn, hm]
    rcases node?_cases h .index with ⟨hn, hm⟩ | ⟨c, d, hn, hm, hcd⟩
    · simp only [hn, hm]
      rcases node?_cases h .arguments with ⟨hn, hm⟩ | ⟨c, d, hn, hm, hcd⟩
      · simp only [hn, hm]
        rcases node?_cases h .closure with ⟨hn, hm⟩ | ⟨c, d, hn, hm, hcd⟩
        · simp only [hn, hm]
          exact hs.refuse h _
        · simp only [hn, hm]
          exact (hs.closure hcd).bind fun x y hxy => Agree.pure (applyClosure hab hxy hspan)
      · simp only [hn, hm]
        exact (hs.arguments hcd).bind fun x y hxy => applyArguments hab hxy hspan
    · simp only [hn, hm, Scope.subscriptOp, any_token?_eq h .operator (by decide) (· == "?[")]
      exact (hs.subscript hcd).bind fun x y hxy => Agree.pure (by simp [hab, hxy, hspan])
  · simp only [Scope.pathElement, hn, hm]
    exact hs.member hab h hcd

theorem pathElements (hs : C.Scopes s s') (hab : a.mapSpans C.span = b.mapSpans C.span)
    {xs ys : List Node} (hxys : List.Forall₂ C.tree xs ys) :
    C.Agree (Expr.mapSpans C.span) (s.pathElements a xs) (s'.pathElements b ys) :=
  Agree.foldlM hxys (fun _ _ _ _ hab hxy => hs.pathElement hab hxy) hab

theorem path (hs : C.Scopes s s') (h : C.tree n m) :
    C.Agree (Expr.mapSpans C.span) (s.path n) (s'.path m) := by
  refine hs.bindNode h fun c d hcd => (hs.expr hcd).bind fun a b hab => ?_
  exact (hs.pathElements hab (C.nodes h _)).bind fun x y hxy =>
    Agree.pure (withSpan_eq hxy (C.span_eq h))

/-! ## Commands -/

theorem argumentList? (hs : C.Scopes s s') (h : C.tree n m) :
    C.Agree (Option.map (Arguments.mapSpans C.span)) (s.argumentList? n)
      (s'.argumentList? m) := by
  rcases node?_cases h .arguments with ⟨hn, hm⟩ | ⟨c, d, hn, hm, hcd⟩
  · simp only [Scope.argumentList?, hn, hm]
    exact Agree.ok rfl
  · simp only [Scope.argumentList?, hn, hm]
    refine (hs.argumentList hcd).bind fun x y hxy => Agree.pure ?_
    rw [Option.map_some, Option.map_some, hxy]

theorem commandHead (hs : C.Scopes s s') (hab : a.mapSpans C.span = b.mapSpans C.span)
    (h : C.tree n m) {x y : Option Arguments}
    (hxy : x.map (Arguments.mapSpans C.span) = y.map (Arguments.mapSpans C.span)) :
    C.Agree (Expr.mapSpans C.span) (s.commandHead n a x) (s'.commandHead m b y) := by
  have harguments : (x.getD (.positional [] a.span)).mapSpans C.span =
      (y.getD (.positional [] b.span)).mapSpans C.span := by
    cases x <;> cases y <;> simp_all [span_eq_of_mapSpans hab]
  rw [Scope.commandHead_eq, Scope.commandHead_eq, isCall_eq hab]
  split
  · cases x with
    | none =>
      cases y with
      | none => exact Agree.ok hab
      | some y => simp at hxy
    | some x =>
      cases y with
      | none => simp at hxy
      | some y => exact hs.refuse h _
  · refine Agree.ok ?_
    rw [headCall_mapSpans, headCall_mapSpans, hab, harguments]

theorem commandArgument (hs : C.Scopes s s') (hab : a.mapSpans C.span = b.mapSpans C.span)
    (h : C.tree n m) :
    C.Agree (Expr.mapSpans C.span) (s.commandArgument a n) (s'.commandArgument b m) := by
  have hspan := C.span_eq h
  refine hs.bindNode h fun c d hcd => (hs.expr hcd).bind fun x y hxy => ?_
  have hname : x.asName.mapSpans C.span = y.asName.mapSpans C.span := by
    rw [Expr.asName_mapSpans, Expr.asName_mapSpans, hxy]
  have hmethod : x.asMethod.mapSpans C.span = y.asMethod.mapSpans C.span := by
    rw [Expr.asMethod_mapSpans, Expr.asMethod_mapSpans, hxy]
  have hplace := span_eq_of_mapSpans hxy
  have hhas : n.has .element = m.has .element := C.has_eq h (by decide)
  rcases node?_cases h .arguments with ⟨hn, hm⟩ | ⟨c, d, hn, hm, hcd⟩
  · simp only [hn, hm, hhas]
    split
    · refine Agree.bind (hs.pathElements ?_ (C.nodes h _)) fun x y hxy =>
        Agree.pure (withSpan_eq hxy hspan)
      simp [hab, hname, hplace]
    · exact Agree.pure (by simp [hab, hmethod, hplace])
  · simp only [hn, hm, isAccess_eq hab]
    split
    · exact hs.refuse h _
    · exact (hs.argumentList hcd).bind fun _ _ harguments =>
        Agree.pure (by simp [hab, hname, harguments, hspan])

theorem command (hs : C.Scopes s s') (h : C.tree n m) :
    C.Agree (Expr.mapSpans C.span) (s.command n) (s'.command m) := by
  rw [Scope.command_eq, Scope.command_eq]
  refine hs.bindNode h fun c d hcd => (hs.expr hcd).bind fun a b hab => ?_
  refine (hs.argumentList? h).bind fun x y hxy => (hs.commandHead hab h hxy).bind fun a b hab => ?_
  refine Agree.bind (k := Expr.mapSpans C.span)
    (Agree.foldlM (C.nodes h _) (fun _ _ _ _ hab hcd => hs.commandArgument hab hcd) hab)
    fun x y hxy => Agree.pure (withSpan_eq hxy (C.span_eq h))

end Scopes

end Comparison

end GroovyLowering
