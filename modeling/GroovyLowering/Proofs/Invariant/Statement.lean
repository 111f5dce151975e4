import GroovyLowering.Lower.Statement
import GroovyLowering.Proofs.Invariant.Expression

/-!
# Statements keep an invariant

One theorem per construct again.  The header of a loop is where declarations and clauses may stand,
so it is the slot `init` that its first clause is shown to have the property in (`forInit`).
-/

namespace GroovyLowering

open Lowered (exists_of_bind exists_of_mem_mapM)

/-! ## The header of a loop -/

/-- What may be a statement may stand in the first clause of a header. -/
theorem Slot.admits_init {form : Form} (h : Slot.statement.Admits form) :
    Slot.init.Admits form ∧ Slot.initItem.Admits form ∧ form ≠ .clauses := by
  revert h
  cases form <;> decide

/-- A loop over three clauses has no variable. -/
theorem headerWellFormed_clauses (init condition update : Expr) (span : Span) :
    HeaderWellFormed none { shape := .clauses [init, condition, update], span } := by
  constructor
  · exact ⟨fun _ => ⟨_, rfl⟩, fun _ => rfl⟩
  · intro clauses heq
    cases heq
    rfl

namespace Invariant

variable {I : Invariant} {k : Nat}

/-- The expressions of statements may stand in the first clause of a header. -/
theorem holds_of_expression? {xs : List Stmt} (h : ∀ x ∈ xs, I.SoundStmt k x) :
    ∀ e ∈ xs.filterMap Stmt.expression?,
      I.holds k (.expr .init e) ∧ I.holds k (.expr .initItem e) := by
  intro e he
  obtain ⟨⟨shape, span, labels⟩, hx, he⟩ := List.mem_filterMap.1 he
  cases shape with
  | expression expr =>
    cases he
    have hstatement : I.holds k (.expr .statement e) := I.parts (h _ hx) _ List.mem_cons_self
    obtain ⟨hinit, hitem, hclauses⟩ := Slot.admits_init (I.wellFormed hstatement).1
    have hparts := ExprShape.parts_eq hclauses
    exact ⟨I.move hstatement rfl (hparts _ _) hinit, I.move hstatement rfl (hparts _ _) hitem⟩
  | _ => cases he

/-- A loop over an expression that stands as an operand has a variable. -/
theorem headerWellFormed_of_sound (binder : Parameter) {collection : Expr}
    (h : I.Sound k collection) : HeaderWellFormed (some binder) collection := by
  have hclauses : ∀ clauses, collection.shape ≠ .clauses clauses := by
    intro clauses heq
    have hform := h.form_eq
    rw [heq] at hform
    cases hform
  constructor
  · constructor
    · intro hbinder
      cases hbinder
    · rintro ⟨clauses, heq⟩
      exact absurd heq (hclauses clauses)
  · intro clauses heq
    exact absurd heq (hclauses clauses)

end Invariant

namespace Scope.Maintains

open Invariant

variable {I : Invariant} {s : Scope} {d k : Nat} {n : Node} {role : Role} {e : Expr} {x : Stmt}

/-! ## Loops -/

theorem forInit (hs : s.Maintains I d) (hn : I.Covers d k n) (he : s.forInit n = .ok e) :
    I.holds k (.expr .init e) := by
  rw [Scope.forInit] at he
  split at he
  · next child hchild =>
    obtain ⟨xs, hxs, he⟩ := exists_of_bind he
    have hexprs := holds_of_expression? (hs.localVariable (hn.child? hchild) hxs)
    split at he
    · next single hsingle =>
      cases he
      rw [hsingle] at hexprs
      exact holds_withSpan (hexprs single List.mem_cons_self).1 _
    · cases he
      have hadmits : Slot.init.Admits .clauses := by decide
      refine I.build ⟨hadmits, trivial⟩ rfl (all_map.2 ?_)
      intro x hx
      exact (hexprs x hx).2
  · obtain ⟨c, x, hx, he⟩ := hs.exists_of_operand hn he
    cases he
    exact (hx.withSpan _).holds_in (by decide)

theorem forUpdate (hs : s.Maintains I d) (hn : I.Covers d k n) (he : s.forUpdate n = .ok e) :
    I.Sound k e := by
  obtain ⟨c, x, hx, he⟩ := hs.exists_of_operand hn he
  cases he
  exact hx.withSpan _

/-- A clause is what its lowering makes of it, or nothing. -/
theorem forClause {P : Expr → Prop} {f : Scope → Node → Lowered Expr}
    (hf : ∀ c ∈ n.node? role, ∀ e, f s c = .ok e → P e) (hnothing : ∀ span, P (.nothing span))
    (he : s.forClause n role f = .ok e) : P e := by
  rw [Scope.forClause] at he
  split at he
  · next child hchild => exact hf child hchild e he
  · cases he
    exact hnothing _

/-- The header of a loop: its variable, and what it goes over. -/
theorem forControl (hs : s.Maintains I d) (hn : I.Covers d k n) {header : Option Parameter × Expr}
    (h : s.forControl n = .ok header) :
    I.All k (header.1.toList.flatMap Parameter.parts) ∧ HeaderWellFormed header.1 header.2 ∧
      I.holds k (.expr .header header.2) := by
  rw [Scope.forControl] at h
  split at h
  · obtain ⟨name, _, h⟩ := exists_of_token h
    obtain ⟨type, _, h⟩ := exists_of_bind h
    obtain ⟨c, collection, hcollection, h⟩ := hs.exists_of_operand hn h
    cases h
    refine ⟨all_nil, headerWellFormed_of_sound _ hcollection, ?_⟩
    exact hcollection.holds_in (by decide)
  · obtain ⟨init, hinit, h⟩ := exists_of_bind h
    obtain ⟨condition, hcondition, h⟩ := exists_of_bind h
    obtain ⟨update, hupdate, h⟩ := exists_of_bind h
    cases h
    have hinitHolds : I.holds k (.expr .init init) := by
      refine forClause (fun c hc e he => hs.forInit (hn.child? hc) he) ?_ hinit
      intro span
      exact (sound_nothing I k span).holds_in (by decide)
    have hconditionSound : I.Sound k condition :=
      forClause (fun c hc e he => hs.expr (hn.child? hc) he) (sound_nothing I k) hcondition
    have hupdateSound : I.Sound k update :=
      forClause (fun c hc e he => hs.forUpdate (hn.child? hc) he) (sound_nothing I k) hupdate
    have hadmits : Slot.header.Admits .clauses := by decide
    refine ⟨all_nil, headerWellFormed_clauses init condition update _, ?_⟩
    exact I.build ⟨hadmits, trivial⟩ rfl
      (all_cons.2 ⟨hinitHolds, all_pair.2 ⟨hconditionSound, hupdateSound⟩⟩)
  · cases h

theorem forLoop (hs : s.Maintains I d) (hn : I.Covers d k n) (hx : s.forLoop n = .ok x) :
    I.SoundStmt k x := by
  obtain ⟨control, hcontrol, hx⟩ := exists_of_node hx
  obtain ⟨c, body, hbody, hx⟩ := hs.exists_of_body hn hx
  obtain ⟨header, hheader, hx⟩ := exists_of_bind hx
  cases hx
  obtain ⟨hbinder, hrule, hcollection⟩ := hs.forControl (hn.child? hcontrol) hheader
  exact soundStmt ⟨hrule, all_append.2 ⟨hbinder, all_pair.2 ⟨hcollection, hbody⟩⟩⟩

/-! ## Try statements -/

theorem catchClause (hs : s.Maintains I d) (hn : I.Covers d k n) {cs : List CatchClause}
    (hcs : s.catchClause n = .ok cs) : ∀ c ∈ cs, I.All k c.parts ∧ c.body.IsBlock := by
  obtain ⟨name, _, hcs⟩ := exists_of_token hcs
  obtain ⟨child, hchild, hcs⟩ := exists_of_node hcs
  obtain ⟨body, hbody, hcs⟩ := exists_of_bind hcs
  cases hcs
  obtain ⟨hsound, hblock⟩ := hs.block (hn.child? hchild) hbody
  intro c hc
  obtain ⟨type, _, rfl⟩ := List.mem_map.1 hc
  exact ⟨all_singleton.2 hsound, hblock⟩

theorem atEnd (hs : s.Maintains I d) (hn : I.Covers d k n) {fallback : Span}
    (hx : s.atEnd n fallback = .ok x) : I.SoundStmt k x ∧ x.IsEnd := by
  rw [Scope.atEnd] at hx
  split at hx
  · next child hchild =>
    obtain ⟨c, hc, hx⟩ := exists_of_node hx
    obtain ⟨block, hblock, hx⟩ := exists_of_bind hx
    cases hx
    have hinner := hs.block ((hn.child? hchild).child? hc) hblock
    have hone : ∀ y ∈ [block], I.SoundStmt k y := List.forall_mem_singleton.2 hinner.1
    exact ⟨(soundBlock hone _).1, .inr ⟨block, rfl, hinner.2⟩⟩
  · cases hx
    exact ⟨soundStmt_nothing I k _, .inl rfl⟩

theorem tryCatch (hs : s.Maintains I d) (hn : I.Covers d k n) (hx : s.tryCatch n = .ok x) :
    I.SoundStmt k x := by
  obtain ⟨child, hchild, hx⟩ := exists_of_node hx
  obtain ⟨body, hbody, hx⟩ := exists_of_bind hx
  obtain ⟨lists, hlists, hx⟩ := exists_of_bind hx
  obtain ⟨last, hlast, hx⟩ := exists_of_bind hx
  cases hx
  obtain ⟨hsound, hblock⟩ := hs.block (hn.child? hchild) hbody
  obtain ⟨hlastSound, hend⟩ := hs.atEnd hn hlast
  have hcatches : ∀ c ∈ lists.flatten, I.All k c.parts ∧ c.body.IsBlock := by
    intro c hc
    obtain ⟨cs, hcs, hc⟩ := List.mem_flatten.1 hc
    obtain ⟨clause, hclause, hstep⟩ := exists_of_mem_mapM hlists hcs
    exact hs.catchClause (hn.child hclause) hstep c hc
  have hclauses : I.All k (lists.flatten.flatMap CatchClause.parts) :=
    all_flatMap.2 fun c hc => (hcatches c hc).1
  refine soundStmt ⟨⟨hblock, fun c hc => (hcatches c hc).2, hend⟩, ?_⟩
  exact all_cons.2 ⟨hsound, all_append.2 ⟨hclauses, all_singleton.2 hlastSound⟩⟩

/-! ## Switches -/

/-- A label of a switch that stands for something with the property. -/
inductive SoundItem (I : Invariant) (k : Nat) : SwitchItem → Prop
  | case {c : SwitchCase} (h : I.All k c.parts) : SoundItem I k (.case c)
  | fallback {body : Stmt} (h : I.SoundStmt k body) : SoundItem I k (.fallback body)

theorem switchLabel (hs : s.Maintains I d) (hn : I.Covers d k n) {body : Stmt}
    (hbody : I.SoundStmt k body) {caseSpan : Span} {isLast : Bool} {item : SwitchItem}
    (h : s.switchLabel body caseSpan isLast n = .ok item) : SoundItem I k item := by
  obtain ⟨keyword, _, h⟩ := exists_of_token h
  split at h
  · obtain ⟨c, value, hvalue, h⟩ := hs.exists_of_operand hn h
    cases h
    cases isLast with
    | true => exact .case (all_pair.2 ⟨hvalue, hbody⟩)
    | false => exact .case (all_pair.2 ⟨hvalue, soundStmt_nothing I k _⟩)
  · split at h
    · cases h
      exact .fallback hbody
    · cases h

theorem switchLabels (hs : s.Maintains I d) {body : Stmt} (hbody : I.SoundStmt k body)
    {caseSpan : Span} {labels : List Node} (hlabels : ∀ c ∈ labels, I.Covers d k c)
    {items : List SwitchItem} (h : s.switchLabels body caseSpan labels = .ok items) :
    ∀ item ∈ items, SoundItem I k item := by
  induction labels generalizing items with
  | nil =>
    cases h
    exact List.forall_mem_nil _
  | cons label rest ih =>
    obtain ⟨hlabel, hrest⟩ := List.forall_mem_cons.1 hlabels
    rw [Scope.switchLabels] at h
    obtain ⟨item, hitem, h⟩ := exists_of_bind h
    obtain ⟨others, hothers, h⟩ := exists_of_bind h
    cases h
    exact List.forall_mem_cons.2 ⟨hs.switchLabel hlabel hbody hitem, ih hrest hothers⟩

theorem switchGroup (hs : s.Maintains I d) (hn : I.Covers d k n) {items : List SwitchItem}
    (h : s.switchGroup n = .ok items) : ∀ item ∈ items, SoundItem I k item := by
  rw [Scope.switchGroup] at h
  split at h
  · cases h
  · next first rest hlabels =>
    obtain ⟨keyword, _, h⟩ := exists_of_token h
    obtain ⟨body, hbody, h⟩ := exists_of_bind h
    have hcovers : ∀ c ∈ first :: rest, I.Covers d k c := by
      rw [← hlabels]
      exact fun c hc => hn.child hc
    exact hs.switchLabels (hs.body hn hbody).1 hcovers h

theorem switchDefault {span : Span} {items : List SwitchItem}
    (hitems : ∀ item ∈ items, SoundItem I k item)
    (hx : Scope.switchDefault span items = .ok x) : I.SoundStmt k x := by
  have hbodies : ∀ b ∈ items.filterMap SwitchItem.fallback?, I.SoundStmt k b := by
    intro b hb
    obtain ⟨item, hitem, hb⟩ := List.mem_filterMap.1 hb
    cases hitems item hitem with
    | case h => cases hb
    | fallback h =>
      cases hb
      exact h
  rw [Scope.switchDefault] at hx
  split at hx
  · cases hx
    exact soundStmt_nothing I k _
  · next body heq =>
    rw [heq] at hbodies
    split at hx
    · cases hx
    · cases hx
      exact hbodies _ List.mem_cons_self
  · cases hx

theorem switch (hs : s.Maintains I d) (hn : I.Covers d k n) (hx : s.switch n = .ok x) :
    I.SoundStmt k x := by
  obtain ⟨c, subject, hsubject, hx⟩ := hs.exists_of_operand hn hx
  obtain ⟨lists, hlists, hx⟩ := exists_of_bind hx
  obtain ⟨otherwise, hotherwise, hx⟩ := exists_of_bind hx
  cases hx
  have hitems : ∀ item ∈ lists.flatten, SoundItem I k item := by
    intro item hitem
    obtain ⟨items, hmem, hitem⟩ := List.mem_flatten.1 hitem
    obtain ⟨group, hgroup, hstep⟩ := exists_of_mem_mapM hlists hmem
    exact hs.switchGroup (hn.child hgroup) hstep item hitem
  have hcases : ∀ c ∈ lists.flatten.filterMap SwitchItem.case?, I.All k c.parts := by
    intro c hc
    obtain ⟨item, hitem, hc⟩ := List.mem_filterMap.1 hc
    cases hitems item hitem with
    | case h =>
      cases hc
      exact h
    | fallback h => cases hc
  have hlast := all_singleton.2 (switchDefault hitems hotherwise)
  exact soundStmt ⟨trivial, all_cons.2 ⟨hsubject, all_append.2 ⟨all_flatMap.2 hcases, hlast⟩⟩⟩

/-! ## Other statements -/

variable {shape : StmtShape}

theorem condition (hs : s.Maintains I d) (hn : I.Covers d k n) (he : s.condition n = .ok e) :
    I.holds k (.expr .condition e) := by
  obtain ⟨c, x, hx, he⟩ := hs.exists_of_operand hn he
  cases he
  exact hx.truth _

theorem assertion (hs : s.Maintains I d) (hn : I.Covers d k n)
    (h : s.assertion n = .ok shape) : I.SoundShape k shape := by
  obtain ⟨e, he, h⟩ := exists_of_bind h
  obtain ⟨o, ho, h⟩ := exists_of_bind h
  cases h
  refine ⟨trivial, all_cons.2 ⟨hs.condition hn he, all_map.2 ?_⟩⟩
  intro x hx
  exact hs.expr? hn ho x (Option.mem_toList.1 hx)

theorem elseBranch (hs : s.Maintains I d) (hn : I.Covers d k n) (hx : s.elseBranch n = .ok x) :
    I.SoundStmt k x := by
  rw [Scope.elseBranch] at hx
  split at hx
  · next child hchild => exact hs.stmt (hn.child? hchild) hx
  · cases hx
    exact soundStmt_nothing I k _

theorem choice (hs : s.Maintains I d) (hn : I.Covers d k n) (h : s.choice n = .ok shape) :
    I.SoundShape k shape := by
  obtain ⟨e, he, h⟩ := exists_of_bind h
  obtain ⟨c, yes, hyes, h⟩ := hs.exists_of_body hn h
  obtain ⟨no, hno, h⟩ := exists_of_bind h
  cases h
  exact ⟨trivial, all_cons.2 ⟨hs.condition hn he, all_pair.2 ⟨hyes, hs.elseBranch hn hno⟩⟩⟩

theorem whileLoop (hs : s.Maintains I d) (hn : I.Covers d k n) (h : s.whileLoop n = .ok shape) :
    I.SoundShape k shape := by
  obtain ⟨e, he, h⟩ := exists_of_bind h
  obtain ⟨c, body, hbody, h⟩ := hs.exists_of_body hn h
  cases h
  exact ⟨trivial, all_pair.2 ⟨hs.condition hn he, hbody⟩⟩

theorem synchronized (hs : s.Maintains I d) (hn : I.Covers d k n)
    (h : s.synchronized n = .ok shape) : I.SoundShape k shape := by
  obtain ⟨c, lock, hlock, h⟩ := hs.exists_of_operand hn h
  obtain ⟨c', body, hbody, h⟩ := hs.exists_of_body hn h
  cases h
  exact ⟨trivial, all_pair.2 ⟨hlock, hbody⟩⟩

theorem returnValue (hs : s.Maintains I d) (hn : I.Covers d k n)
    (h : s.returnValue n = .ok shape) : I.SoundShape k shape := by
  obtain ⟨o, ho, h⟩ := exists_of_bind h
  cases h
  refine ⟨trivial, all_singleton.2 ?_⟩
  cases o with
  | none => exact sound_constant I k _ _
  | some e => exact hs.expr? hn ho e rfl

theorem throwValue (hs : s.Maintains I d) (hn : I.Covers d k n)
    (h : (do return .throwValue (← s.expr (← s.node n .expression)) : Lowered StmtShape) =
      .ok shape) :
    I.SoundShape k shape := by
  obtain ⟨c, e, he, h⟩ := hs.exists_of_operand hn h
  cases h
  exact ⟨trivial, all_singleton.2 he⟩

theorem expressionStatement (hs : s.Maintains I d) (hn : I.Covers d k n)
    (h : (do return .expression (← s.expr (← s.node n .expression)) : Lowered StmtShape) =
      .ok shape) :
    I.SoundShape k shape := by
  obtain ⟨c, e, he, h⟩ := hs.exists_of_operand hn h
  cases h
  exact ⟨trivial, all_singleton.2 (he.holds_in (by decide))⟩

/-- A statement has the property if what it says has it. -/
theorem placed {result : Lowered StmtShape}
    (hresult : ∀ shape, result = .ok shape → I.SoundShape k shape)
    (hx : s.placed n result = .ok x) : I.SoundStmt k x := by
  obtain ⟨shape, hshape, hx⟩ := exists_of_bind hx
  cases hx
  exact soundStmt (hresult shape hshape)

theorem single (hs : s.Maintains I d) (hn : I.Covers d k n) (hx : s.single n = .ok x) :
    I.SoundStmt k x := by
  obtain ⟨xs, hxs, hx⟩ := exists_of_bind hx
  have hall := hs.blockStatement hn hxs
  split at hx
  · cases hx
    exact hall _ List.mem_cons_self
  · cases hx
    exact (soundBlock hall _).1

theorem statement (hs : s.Maintains I d) (hn : I.Covers d k n) (hx : s.statement n = .ok x) :
    I.SoundStmt k x := by
  rw [Scope.statement] at hx
  split at hx
  · exact (hs.block hn hx).1
  · exact placed (fun _ h => hs.assertion hn h) hx
  · exact placed (fun _ h => hs.choice hn h) hx
  · exact hs.forLoop hn hx
  · exact placed (fun _ h => hs.whileLoop hn h) hx
  · exact hs.tryCatch hn hx
  · exact hs.switch hn hx
  · exact placed (fun _ h => hs.synchronized hn h) hx
  · exact placed (fun _ h => hs.returnValue hn h) hx
  · exact placed (fun _ h => hs.throwValue hn h) hx
  · cases hx
    exact soundStmt ⟨trivial, all_nil⟩
  · cases hx
    exact soundStmt ⟨trivial, all_nil⟩
  · exact placed (fun _ h => hs.expressionStatement hn h) hx
  · exact hs.single hn hx
  · exact hs.single hn hx
  · exact hs.single hn hx
  · exact hs.single hn hx
  · cases hx

end Scope.Maintains

end GroovyLowering
