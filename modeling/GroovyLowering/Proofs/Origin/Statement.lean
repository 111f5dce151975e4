import GroovyLowering.Lower.Level
import GroovyLowering.Proofs.Origin.Expression

/-!
# The spans of statements

One theorem per construct again, and the induction on the levels that closes all of them
(`Scope.from_level`).

A statement list without tokens may be the body of a construct, and then it has no place of its own.
Loops and locks lower their bodies as statements, which refuses such a list.  The groups of a switch
give it their own place.  Only try statements and their clauses look at it as a block in braces, so
an origin has a law of its own for these.
-/

namespace GroovyLowering

open Lowered (Ensures Keeps)

/-- The spans of a switch label stay as they are. -/
def SwitchItem.Stays (f : Span → Span) : SwitchItem → Prop
  | .case c => c.mapSpans f = c
  | .fallback body => body.mapSpans f = body

namespace Scope.From

variable {O : Origin} {s : Scope} {n : Node} {role : Role}

/-! ## Loops with a header -/

theorem forInit (hs : s.From O) (h : O.node n) : (s.forInit n).Keeps (Expr.mapSpans O.keep) := by
  rw [Scope.forInit]
  split
  · next child hchild =>
    refine (hs.localVariable (O.child? h hchild rfl)).bind fun xs hxs => ?_
    have hvalues : ∀ e ∈ xs.filterMap Stmt.expression?, e.mapSpans O.keep = e := by
      intro e he
      obtain ⟨x, hx, he⟩ := List.mem_filterMap.1 he
      have hstays := (Stmt.stays_iff.1 (of_map_eq_self hxs x hx)).1
      obtain ⟨shape, span, labels⟩ := x
      cases shape with
      | expression expr =>
        cases he
        exact StmtShape.expression.inj hstays
      | _ => cases he
    split
    · next single hsingle =>
      have hsingle := hvalues single (by rw [hsingle]; exact List.mem_cons_self)
      exact .pure (Expr.withSpan_stays hsingle (O.keep_span h))
    · exact .pure (by simp [map_eq_self hvalues, O.keep_span h])
  · refine hs.operand h rfl fun e he => .pure ?_
    exact Expr.withSpan_stays he (O.keep_span h)

theorem forUpdate (hs : s.From O) (h : O.node n) :
    (s.forUpdate n).Keeps (Expr.mapSpans O.keep) := by
  refine hs.operand h rfl fun e he => .pure ?_
  exact Expr.withSpan_stays he (O.keep_span h)

theorem forClause (h : O.node n) (hrole : role.isBody = false)
    {lower : Scope → Node → Lowered Expr}
    (hlower : ∀ c, O.node c → (lower s c).Keeps (Expr.mapSpans O.keep)) :
    (s.forClause n role lower).Keeps (Expr.mapSpans O.keep) := by
  rw [Scope.forClause]
  split
  · next child hchild => exact hlower child (O.child? h hchild hrole)
  · exact .ok (by simp [Expr.nothing, O.keep_span h])

theorem forControl (hs : s.From O) (h : O.node n) :
    (s.forControl n).Keeps
      (Prod.map (Option.map (Parameter.mapSpans O.keep)) (Expr.mapSpans O.keep)) := by
  rw [Scope.forControl]
  split
  · refine .token fun name hname => ?_
    have hkeep := O.keep_token h hname
    refine (typeOr h hkeep).bind fun type htype => ?_
    refine hs.operand h rfl fun e he => .pure ?_
    simp [htype, he, hkeep]
  · refine (forClause h rfl fun _ => hs.forInit).bind fun init hinit => ?_
    refine (forClause h rfl fun _ => hs.expr).bind fun condition hcondition => ?_
    refine (forClause h rfl fun _ => hs.forUpdate).bind fun update hupdate => .pure ?_
    simp [hinit, hcondition, hupdate, O.keep_span h]
  · exact .refuse

theorem forLoop (hs : s.From O) (h : O.node n) : (s.forLoop n).Keeps (Stmt.mapSpans O.keep) := by
  refine .node fun control hcontrol => .node fun c hc => ?_
  refine (hs.bodyStmt h hc).bind fun body hbody => ?_
  refine (hs.forControl (O.child h hcontrol rfl)).bind fun header hheader => .pure ?_
  obtain ⟨binder, collection⟩ := header
  obtain ⟨hbinder, hcollection⟩ := Prod.mk.inj hheader
  simp [hbinder, hcollection, hbody, O.keep_span h]

/-! ## Try statements -/

theorem catchTypes (h : O.node n) {name : Token} (hname : O.keep name.span = name.span) :
    (Scope.catchTypes n name).map (TypeRef.mapSpans O.keep) = Scope.catchTypes n name := by
  rw [Scope.catchTypes]
  split
  · simp [TypeRef.dynamic, hname]
  · next list hlist =>
    split
    · simp [TypeRef.dynamic, hname]
    · exact namedTypes h hlist rfl

theorem catchClause (hs : s.From O) (h : O.node n) (hbody : ∀ c ∈ n.nodes .body, O.node c) :
    (s.catchClause n).Keeps (List.map (CatchClause.mapSpans O.keep)) := by
  refine .token fun name hname => .node fun c hc => ?_
  have hkeep := O.keep_token h hname
  refine (hs.block (hbody c hc)).bind fun body hbody => .pure ?_
  refine map_eq_self fun clause hclause => ?_
  obtain ⟨type, htype, rfl⟩ := List.mem_map.1 hclause
  have htype := of_map_eq_self (catchTypes h hkeep) type htype
  simp [htype, hbody, hkeep, (Stmt.stays_iff.1 hbody).2]

theorem atEnd (hs : s.From O) (h : O.node n)
    (hbody : ∀ d ∈ n.nodes .finallyClause, ∀ c ∈ d.nodes .body, O.node c) :
    (s.atEnd n n.span).Keeps (Stmt.mapSpans O.keep) := by
  rw [Scope.atEnd]
  split
  · next child hchild =>
    refine .node fun c hc => ?_
    refine (hs.block (hbody child (List.mem_of_head? hchild) c hc)).bind fun x hx => .pure ?_
    simp [Stmt.block, hx, O.keep_span (O.child? h hchild rfl)]
  · exact .ok (by simp [Stmt.nothing, O.keep_span h])

theorem tryCatch (hs : s.From O) (h : O.node n) (hkind : n.kind = .tryStatement) :
    (s.tryCatch n).Keeps (Stmt.mapSpans O.keep) := by
  have hcatches : ((n.nodes .catchClause).mapM s.catchClause).Keeps
      (List.map (List.map (CatchClause.mapSpans O.keep))) := by
    refine .mapM fun d hd => hs.catchClause (O.child h hd rfl) fun c hc => ?_
    exact O.clauseBody h hkind (Or.inl hd) hc
  have hend := hs.atEnd h fun d hd c hc => O.clauseBody h hkind (Or.inr hd) hc
  refine .node fun c hc => (hs.block (O.ownBody h (Or.inl hkind) hc)).bind fun body hbody => ?_
  refine hcatches.bind fun catches hcatches => hend.bind fun x hx => .pure ?_
  simp only [Stmt.mapSpans, StmtShape.mapSpans, mapSpansInCatches_eq, List.map_flatten, hbody,
    hcatches, hx, O.keep_span h]

/-! ## Switches -/

theorem switchLabel (hs : s.From O) (h : O.node n) {body : Stmt}
    (hbody : body.mapSpans O.keep = body) {caseSpan : Span} (hspan : O.keep caseSpan = caseSpan)
    (isLast : Bool) :
    Ensures (s.switchLabel body caseSpan isLast n) (SwitchItem.Stays O.keep) := by
  refine .skip fun keyword => ?_
  split
  · refine .node fun c hc => ?_
    refine Ensures.bind (hs.expr (O.child h (List.mem_of_head? hc) rfl)) fun e he => ?_
    refine .pure ?_
    rw [SwitchItem.Stays, SwitchCase.mapSpans]
    cases isLast <;> simp [he, hbody, hspan, Stmt.nothing]
  · split
    · exact .pure hbody
    · exact .refuse

theorem switchLabels (hs : s.From O) {body : Stmt} (hbody : body.mapSpans O.keep = body)
    {caseSpan : Span} (hspan : O.keep caseSpan = caseSpan) {labels : List Node}
    (h : ∀ label ∈ labels, O.node label) :
    Ensures (s.switchLabels body caseSpan labels) fun is => ∀ i ∈ is, i.Stays O.keep := by
  induction labels with
  | nil => exact .ok (List.forall_mem_nil _)
  | cons label rest ih =>
    obtain ⟨hlabel, hrest⟩ := List.forall_mem_cons.1 h
    rw [Scope.switchLabels]
    refine (hs.switchLabel hlabel hbody hspan _).bind fun i hi => (ih hrest).bind fun is his => ?_
    exact .pure (List.forall_mem_cons.2 ⟨hi, his⟩)

theorem switchGroup (hs : s.From O) (h : O.node n) :
    Ensures (s.switchGroup n) fun is => ∀ i ∈ is, i.Stays O.keep := by
  rw [Scope.switchGroup]
  split
  · exact .refuse
  · next first rest hlabels =>
    have hnodes : ∀ label ∈ first :: rest, O.node label := by
      intro label hlabel
      rw [← hlabels] at hlabel
      exact O.child h hlabel rfl
    refine .token fun keyword hkeyword => ?_
    have hkeep := O.keep_token (hnodes first List.mem_cons_self) hkeyword
    exact Ensures.bind (hs.body h) fun body hbody => hs.switchLabels hbody hkeep hnodes

theorem switchDefault {span : Span} (hspan : O.keep span = span) {is : List SwitchItem}
    (h : ∀ i ∈ is, i.Stays O.keep) :
    (Scope.switchDefault span is).Keeps (Stmt.mapSpans O.keep) := by
  have hbodies : ∀ b ∈ is.filterMap SwitchItem.fallback?, b.mapSpans O.keep = b := by
    intro b hb
    obtain ⟨i, hi, hb⟩ := List.mem_filterMap.1 hb
    have hstays := h i hi
    cases i with
    | case => cases hb
    | fallback body =>
      cases hb
      exact hstays
  rw [Scope.switchDefault]
  split
  · exact .ok (by simp [Stmt.nothing, hspan])
  · next body heq =>
    rw [heq] at hbodies
    split
    · exact .error
    · exact .ok (hbodies body List.mem_cons_self)
  · exact .error

theorem switch (hs : s.From O) (h : O.node n) : (s.switch n).Keeps (Stmt.mapSpans O.keep) := by
  refine hs.operand h rfl fun subject hsubject => ?_
  refine Keeps.given (.mapM fun g hg => hs.switchGroup (O.child h hg rfl)) ?_
  intro iss hiss
  have hitems : ∀ i ∈ iss.flatten, i.Stays O.keep := by
    intro i hi
    obtain ⟨is, his, hi⟩ := List.mem_flatten.1 hi
    exact hiss is his i hi
  have hcases : ∀ c ∈ iss.flatten.filterMap SwitchItem.case?, c.mapSpans O.keep = c := by
    intro c hc
    obtain ⟨i, hi, hc⟩ := List.mem_filterMap.1 hc
    have hstays := hitems i hi
    cases i with
    | fallback => cases hc
    | case c =>
      cases hc
      exact hstays
  refine (switchDefault (O.keep_span h) hitems).bind fun otherwise hotherwise => .pure ?_
  simp only [Stmt.mapSpans, StmtShape.mapSpans, mapSpansInCases_eq, hsubject, map_eq_self hcases,
    hotherwise, O.keep_span h]

/-! ## Other statements -/

theorem condition (hs : s.From O) (h : O.node n) :
    (s.condition n).Keeps (Expr.mapSpans O.keep) := by
  refine .node fun c hc => ?_
  have hnode := O.child h hc rfl
  exact (hs.expr hnode).bind fun e he => .pure (by simp [Expr.truth, he, O.keep_span hnode])

theorem assertion (hs : s.From O) (h : O.node n) :
    (s.assertion n).Keeps (StmtShape.mapSpans O.keep) := by
  refine (hs.condition h).bind fun e he => (hs.expr? h rfl).bind fun m hm => .pure ?_
  simp [he, hm]

theorem elseBranch (hs : s.From O) (h : O.node n) :
    (s.elseBranch n).Keeps (Stmt.mapSpans O.keep) := by
  rw [Scope.elseBranch]
  split
  · next child hchild => exact hs.stmt (O.child? h hchild rfl)
  · exact .ok (by simp [Stmt.nothing, hs.keep_spanOf h])

theorem choice (hs : s.From O) (h : O.node n) :
    (s.choice n).Keeps (StmtShape.mapSpans O.keep) := by
  refine (hs.condition h).bind fun e he => .node fun c hc => ?_
  refine (hs.stmt (O.child h hc rfl)).bind fun yes hyes => ?_
  exact (hs.elseBranch h).bind fun no hno => .pure (by simp [he, hyes, hno])

theorem whileLoop (hs : s.From O) (h : O.node n) :
    (s.whileLoop n).Keeps (StmtShape.mapSpans O.keep) := by
  refine (hs.condition h).bind fun e he => .node fun c hc => ?_
  exact (hs.bodyStmt h hc).bind fun body hbody => .pure (by simp [he, hbody])

theorem synchronized (hs : s.From O) (h : O.node n) :
    (s.synchronized n).Keeps (StmtShape.mapSpans O.keep) := by
  refine hs.operand h rfl fun lock hlock => ?_
  refine .node fun d hd => (hs.bodyStmt h hd).bind fun body hbody => .pure ?_
  simp [hlock, hbody]

theorem returnValue (hs : s.From O) (h : O.node n) :
    (s.returnValue n).Keeps (StmtShape.mapSpans O.keep) := by
  refine (hs.expr? h rfl).bind fun e he => .pure ?_
  cases e with
  | none => simp [Expr.null, Expr.constant, hs.keep_spanOf h]
  | some e => simpa using he

theorem placed (hs : s.From O) (h : O.node n) {x : Lowered StmtShape}
    (hx : x.Keeps (StmtShape.mapSpans O.keep)) :
    (s.placed n x).Keeps (Stmt.mapSpans O.keep) :=
  hx.bind fun _ hshape => .pure (Stmt.stays_iff.2 ⟨hshape, hs.keep_spanOf h⟩)

theorem single (hs : s.From O) (h : O.node n) : (s.single n).Keeps (Stmt.mapSpans O.keep) := by
  refine (hs.blockStatement n h).bind fun xs hxs => ?_
  split
  · next x => exact .pure (List.singleton_inj.1 hxs)
  · exact .pure (by simp [Stmt.block, hxs, hs.keep_spanOf h])

theorem statement (hs : s.From O) (h : O.node n) :
    (s.statement n).Keeps (Stmt.mapSpans O.keep) := by
  rw [Scope.statement]
  split
  · exact hs.block h
  · exact hs.placed h (hs.assertion h)
  · exact hs.placed h (hs.choice h)
  · exact hs.forLoop h
  · exact hs.placed h (hs.whileLoop h)
  · next hkind => exact hs.tryCatch h hkind
  · exact hs.switch h
  · exact hs.placed h (hs.synchronized h)
  · exact hs.placed h (hs.returnValue h)
  · exact hs.placed h (hs.operand h rfl fun e he => .pure (by simp [he]))
  · exact hs.placed h (.ok rfl)
  · exact hs.placed h (.ok rfl)
  · exact hs.placed h (hs.operand h rfl fun e he => .pure (by simp [he]))
  · exact hs.single h
  · exact hs.single h
  · exact hs.single h
  · exact hs.single h
  · exact .refuse

end Scope.From

/-! ## All levels -/

theorem Scope.statement_refuses {s : Scope} {n : Node} (h : n.kind = .blockStatements) :
    Ensures (s.statement n) fun _ => False := by
  rw [Scope.statement]
  simp only [h]
  exact .refuse

/-- The scope of every level gives good spans, if it stands at a place. -/
theorem Scope.from_level {O : Origin} (limit left : Nat) {place : Span} (h : O.place place) :
    (Scope.level limit left place).From O := by
  induction left generalizing place with
  | zero => exact ⟨h, fun _ => .error, fun _ => .error, fun _ => .error⟩
  | succ left ih =>
    refine ⟨h, fun hn => ?_, fun hn => ?_, fun hkind => Scope.statement_refuses hkind⟩
    · exact (ih (O.place_spanOr hn h)).expression hn
    · exact (ih (O.place_spanOr hn h)).statement hn

theorem Scope.from_outermost {O : Origin} (limit : Nat) : (Scope.outermost limit).From O :=
  Scope.from_level limit limit O.place_fileStart

end GroovyLowering
