import GroovyLowering.Lower.Statement
import GroovyLowering.Proofs.Failure.Expression

/-!
# Failures of statements

One theorem per construct again.  A default of a switch that should not be there is refused at its
statements.  Without statements these have the place of their group, and a group has the keyword of
its first label.
-/

namespace GroovyLowering

open Lowered (exists_of_bind exists_of_mem_mapM)

namespace Scope.Locates

variable {s : Scope} {m n : Node} {role : Role}

/-! ## Loops -/

theorem forInit (hs : s.Locates m) (hn : n.IsPartOf m) : s.Reports m (s.forInit n) := by
  rw [Scope.forInit]
  split
  · next child hchild =>
    apply (hs.localVariable (hn.child? hchild)).bind
    intro statements _
    split
    · exact .pure
    · exact .pure
  · apply hs.operand hn
    intro c e _ _
    exact .pure

theorem forUpdate (hs : s.Locates m) (hn : n.IsPartOf m) : s.Reports m (s.forUpdate n) := by
  apply hs.operand hn
  intro c e _ _
  exact .pure

theorem forClause (hn : n.IsPartOf m) {f : Scope → Node → Lowered Expr}
    (hf : ∀ {c : Node}, c.IsPartOf m → s.Reports m (f s c)) :
    s.Reports m (s.forClause n role f) := by
  rw [Scope.forClause]
  split
  · next child hchild => exact hf (hn.child? hchild)
  · exact .ok

theorem forControl (hs : s.Locates m) (hn : n.IsPartOf m) : s.Reports m (s.forControl n) := by
  rw [Scope.forControl]
  split
  · apply hs.token hn
    intro name _ _ _
    apply (hs.typeOr hn name).bind
    intro type _
    apply hs.operand hn
    intro c collection _ _
    exact .pure
  · apply (forClause hn hs.forInit).bind
    intro init _
    apply (forClause hn hs.expr).bind
    intro condition _
    exact (forClause hn hs.forUpdate).map
  · exact hs.refuse hn _

theorem forLoop (hs : s.Locates m) (hn : n.IsPartOf m) : s.Reports m (s.forLoop n) := by
  apply hs.node hn
  intro control _ hcontrol
  apply hs.body hn
  intro c body
  exact (hs.forControl hcontrol).map

/-! ## Try statements -/

theorem catchClause (hs : s.Locates m) (hn : n.IsPartOf m) : s.Reports m (s.catchClause n) := by
  apply hs.token hn
  intro name _ _ _
  apply hs.node hn
  intro body _ hbody
  exact (hs.block hbody).map

theorem atEnd (hs : s.Locates m) (hn : n.IsPartOf m) (fallback : Span) :
    s.Reports m (s.atEnd n fallback) := by
  rw [Scope.atEnd]
  split
  · next child hchild =>
    apply hs.node (hn.child? hchild)
    intro body _ hbody
    exact (hs.block hbody).map
  · exact .ok

theorem tryCatch (hs : s.Locates m) (hn : n.IsPartOf m) : s.Reports m (s.tryCatch n) := by
  apply hs.node hn
  intro body _ hbody
  apply (hs.block hbody).bind
  intro code _
  have hclauses : s.Reports m ((n.nodes .catchClause).mapM s.catchClause) :=
    .mapM fun c hc => hs.catchClause (hn.child hc)
  apply hclauses.bind
  intro clauses _
  exact (hs.atEnd hn n.span).map

/-! ## Switches -/

theorem switchLabel (hs : s.Locates m) (hn : n.IsPartOf m) (body : Stmt) (caseSpan : Span)
    (isLast : Bool) : s.Reports m (s.switchLabel body caseSpan isLast n) := by
  apply hs.token hn
  intro keyword _ _ _
  split
  · apply hs.operand hn
    intro c value _ _
    exact .pure
  · split
    · exact .pure
    · exact hs.refuse hn _

theorem switchLabels (hs : s.Locates m) (body : Stmt) (caseSpan : Span) {labels : List Node}
    (hlabels : ∀ c ∈ labels, c.IsPartOf m) : s.Reports m (s.switchLabels body caseSpan labels) := by
  induction labels with
  | nil => exact .ok
  | cons label rest ih =>
    obtain ⟨hlabel, hrest⟩ := List.forall_mem_cons.1 hlabels
    rw [Scope.switchLabels]
    apply (hs.switchLabel hlabel body caseSpan _).bind
    intro item _
    exact (ih hrest).map

theorem switchGroup (hs : s.Locates m) (hn : n.IsPartOf m) : s.Reports m (s.switchGroup n) := by
  rw [Scope.switchGroup]
  split
  · exact hs.refuse hn _
  · next first rest hlabels =>
    have hparts : ∀ c ∈ first :: rest, c.IsPartOf m := by
      rw [← hlabels]
      exact fun c hc => hn.child hc
    apply hs.token (hparts first List.mem_cons_self)
    intro keyword _ _ _
    apply (hs.bodyOr hn n.span).bind
    intro body _
    exact hs.switchLabels body keyword.span hparts

/-- The statements in a body have a place within the node where the fallback has. -/
theorem body_within (hs : s.Locates m) (hn : n.IsPartOf m) {fallback : Span}
    (hfallback : fallback.Within m.span) {x : Stmt} (hx : s.body n fallback = .ok x) :
    x.span.Within m.span := by
  rw [Scope.body] at hx
  split at hx
  · next list hlist =>
    obtain ⟨xs, _, hx⟩ := exists_of_bind hx
    cases hx
    exact Node.spanOr_within_of_within hs.order (hn.child? hlist).sublist hfallback
  · cases hx
    exact hfallback

theorem eq_of_switchLabels {body : Stmt} {caseSpan : Span} {labels : List Node}
    {items : List SwitchItem} (h : s.switchLabels body caseSpan labels = .ok items) :
    ∀ item ∈ items, ∀ b ∈ item.fallback?, b = body := by
  induction labels generalizing items with
  | nil =>
    cases h
    exact List.forall_mem_nil _
  | cons label rest ih =>
    rw [Scope.switchLabels] at h
    obtain ⟨item, hitem, h⟩ := exists_of_bind h
    obtain ⟨others, hothers, h⟩ := exists_of_bind h
    cases h
    refine List.forall_mem_cons.2 ⟨?_, ih hothers⟩
    obtain ⟨keyword, _, hitem⟩ := exists_of_token hitem
    intro b hb
    split at hitem
    · obtain ⟨c, _, hitem⟩ := exists_of_node hitem
      obtain ⟨value, _, hitem⟩ := exists_of_bind hitem
      cases hitem
      cases hb
    · split at hitem
      · cases hitem
        cases hb
        rfl
      · cases hitem

/-- The statements of a default have a place within the node. -/
theorem fallback_within (hs : s.Locates m) (hn : n.IsPartOf m) {items : List SwitchItem}
    (h : s.switchGroup n = .ok items) :
    ∀ item ∈ items, ∀ b ∈ item.fallback?, b.span.Within m.span := by
  rw [Scope.switchGroup] at h
  split at h
  · cases h
  · next first rest hlabels =>
    obtain ⟨keyword, hkeyword, h⟩ := exists_of_token h
    obtain ⟨body, hbody, h⟩ := exists_of_bind h
    -- The keyword is a token of the group, so the group has a place.
    have hfirst : first ∈ n.nodes .label := by
      rw [hlabels]
      exact List.mem_cons_self
    have hmem : keyword ∈ n.allTokens :=
      (Node.isChildOf_of_mem_nodes hfirst).sublist.subset
        (Node.mem_allTokens_of_mem_tokens (List.mem_of_head? hkeyword))
    have hgroup : n.span.Within m.span := hs.span_within hn (List.ne_nil_of_mem hmem) _
    intro item hitem b hb
    rw [eq_of_switchLabels h item hitem b hb]
    exact hs.body_within hn hgroup hbody

theorem switchDefault {span : Span} {items : List SwitchItem}
    (hitems : ∀ item ∈ items, ∀ b ∈ item.fallback?, b.span.Within m.span) :
    s.Reports m (Scope.switchDefault span items) := by
  have hbodies : ∀ b ∈ items.filterMap SwitchItem.fallback?, b.span.Within m.span := by
    intro b hb
    obtain ⟨item, hitem, hb⟩ := List.mem_filterMap.1 hb
    exact hitems item hitem b hb
  rw [Scope.switchDefault]
  split
  · exact .ok
  · next body heq =>
    rw [heq] at hbodies
    split
    · exact .error (.within (hbodies body List.mem_cons_self))
    · exact .ok
  · next body other others heq =>
    rw [heq] at hbodies
    exact .error (.within (hbodies body List.mem_cons_self))

theorem switch (hs : s.Locates m) (hn : n.IsPartOf m) : s.Reports m (s.switch n) := by
  apply hs.operand hn
  intro c subject _ _
  have hgroups : s.Reports m ((n.nodes .group).mapM s.switchGroup) :=
    .mapM fun c hc => hs.switchGroup (hn.child hc)
  apply hgroups.bind
  intro lists hlists
  have hitems : ∀ item ∈ lists.flatten, ∀ b ∈ item.fallback?, b.span.Within m.span := by
    intro item hitem
    obtain ⟨items, hmem, hitem⟩ := List.mem_flatten.1 hitem
    obtain ⟨group, hgroup, hstep⟩ := exists_of_mem_mapM hlists hmem
    exact hs.fallback_within (hn.child hgroup) hstep item hitem
  exact (switchDefault hitems).map

/-! ## Other statements -/

theorem condition (hs : s.Locates m) (hn : n.IsPartOf m) : s.Reports m (s.condition n) := by
  apply hs.operand hn
  intro c e _ _
  exact .pure

theorem assertion (hs : s.Locates m) (hn : n.IsPartOf m) : s.Reports m (s.assertion n) := by
  apply (hs.condition hn).bind
  intro e _
  exact (hs.expr? hn).map

theorem elseBranch (hs : s.Locates m) (hn : n.IsPartOf m) : s.Reports m (s.elseBranch n) := by
  rw [Scope.elseBranch]
  split
  · next child hchild => exact hs.stmt (hn.child? hchild)
  · exact .ok

theorem choice (hs : s.Locates m) (hn : n.IsPartOf m) : s.Reports m (s.choice n) := by
  apply (hs.condition hn).bind
  intro e _
  apply hs.body hn
  intro c yes
  exact (hs.elseBranch hn).map

theorem whileLoop (hs : s.Locates m) (hn : n.IsPartOf m) : s.Reports m (s.whileLoop n) := by
  apply (hs.condition hn).bind
  intro e _
  apply hs.body hn
  intro c body
  exact .pure

theorem synchronized (hs : s.Locates m) (hn : n.IsPartOf m) :
    s.Reports m (s.synchronized n) := by
  apply hs.operand hn
  intro c lock _ _
  apply hs.body hn
  intro c' body
  exact .pure

theorem returnValue (hs : s.Locates m) (hn : n.IsPartOf m) : s.Reports m (s.returnValue n) :=
  (hs.expr? hn).map

theorem throwValue (hs : s.Locates m) (hn : n.IsPartOf m) :
    s.Reports m (do return .throwValue (← s.expr (← s.node n .expression)) :
      Lowered StmtShape) := by
  apply hs.operand hn
  intro c e _ _
  exact .pure

theorem expressionStatement (hs : s.Locates m) (hn : n.IsPartOf m) :
    s.Reports m (do return .expression (← s.expr (← s.node n .expression)) :
      Lowered StmtShape) := by
  apply hs.operand hn
  intro c e _ _
  exact .pure

theorem placed {x : Lowered StmtShape} (hx : s.Reports m x) : s.Reports m (s.placed n x) :=
  hx.map

theorem single (hs : s.Locates m) (hn : n.IsPartOf m) : s.Reports m (s.single n) := by
  apply (hs.blockStatement hn).bind
  intro statements _
  split
  · exact .pure
  · exact .pure

theorem statement (hs : s.Locates m) (hn : n.IsPartOf m) : s.Reports m (s.statement n) := by
  rw [Scope.statement]
  split
  · exact hs.block hn
  · exact placed (hs.assertion hn)
  · exact placed (hs.choice hn)
  · exact hs.forLoop hn
  · exact placed (hs.whileLoop hn)
  · exact hs.tryCatch hn
  · exact hs.switch hn
  · exact placed (hs.synchronized hn)
  · exact placed (hs.returnValue hn)
  · exact placed (hs.throwValue hn)
  · exact placed .ok
  · exact placed .ok
  · exact placed (hs.expressionStatement hn)
  · exact hs.single hn
  · exact hs.single hn
  · exact hs.single hn
  · exact hs.single hn
  · exact hs.refuse hn _

end Scope.Locates

end GroovyLowering
