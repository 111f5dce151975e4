import GroovyLowering.Builder.Statement
import GroovyLowering.Proofs.Builder.Declaration

/-!
# Building statements restores the builder

One theorem per construct, and one for the dispatch over all of them (`Walk.Follows.statement`).
-/

namespace GroovyLowering.Walk.Follows

open Building

variable {w : Walk} {b : Builder} {s : Scope}

/-! ## Loops with a header -/

theorem forInit (h : w.Follows b s) (n : Node) : (w.forInit n).Yields b (s.forInit n) := by
  rw [Walk.forInit, Scope.forInit]
  cases n.node? .statement with
  | some child =>
    refine (h.localVariable child).bind fun declared => ?_
    match declared.filterMap Stmt.expression? with
    | [single] => exact .pure _
    | [] => exact .pure _
    | _ :: _ :: _ => exact .pure _
  | none => exact (h.node n .expression).bind fun child => (h.expr child).bind fun _ => .pure _

theorem forUpdate (h : w.Follows b s) (n : Node) : (w.forUpdate n).Yields b (s.forUpdate n) :=
  (h.node n .expression).bind fun child => (h.expr child).bind fun _ => .pure _

theorem forClause (n : Node) (role : Role) {build : Walk → Node → Building Expr}
    {lower : Scope → Node → Lowered Expr}
    (hbuild : ∀ child, (build w child).Yields b (lower s child)) :
    (w.forClause n role build).Yields b (s.forClause n role lower) := by
  rw [Walk.forClause, Scope.forClause]
  cases n.node? role with
  | some child => exact hbuild child
  | none => exact .pure _

theorem forControl (h : w.Follows b s) (n : Node) :
    (w.forControl n).Yields b (s.forControl n) := by
  rw [Walk.forControl, Scope.forControl]
  cases n.kind with
  | enhancedForControl =>
    refine (h.token n .name).bind fun name => ?_
    refine (h.look (Scope.typeOr_reads n name)).bind fun type => ?_
    exact (h.node n .expression).bind fun child => (h.expr child).bind fun _ => .pure _
  | classicForControl =>
    refine (forClause n .init h.forInit).bind fun init => ?_
    refine (forClause n .condition h.expr).bind fun condition => ?_
    exact (forClause n .update h.forUpdate).bind fun _ => .pure _
  | _ => exact h.refuse _ _

theorem forLoop (h : w.Follows b s) (n : Node) : (w.forLoop n).Yields b (s.forLoop n) := by
  rw [Walk.forLoop, Scope.forLoop]
  refine (h.node n .control).bind fun control => ?_
  refine (h.node n .body).bind fun child => (h.stmt child).bind fun body => ?_
  exact (h.forControl control).bind fun _ => .pure _

/-! ## Switches -/

theorem switchLabel (h : w.Follows b s) (body : Stmt) (caseSpan : Span) (isLast : Bool)
    (label : Node) :
    (w.switchLabel body caseSpan isLast label).Yields b
      (s.switchLabel body caseSpan isLast label) := by
  rw [Walk.switchLabel, Scope.switchLabel]
  refine (h.token label .keyword).bind fun keyword => .ite ?_ (.ite (.pure _) (h.refuse _ _))
  exact (h.node label .expression).bind fun child => (h.expr child).bind fun _ => .pure _

theorem switchLabels (h : w.Follows b s) (body : Stmt) (caseSpan : Span) (labels : List Node) :
    (w.switchLabels body caseSpan labels).Yields b (s.switchLabels body caseSpan labels) := by
  induction labels with
  | nil => exact .pure _
  | cons label rest ih =>
    exact (h.switchLabel body caseSpan rest.isEmpty label).bind fun _ => ih.bind fun _ => .pure _

theorem switchGroup (h : w.Follows b s) (group : Node) :
    (w.switchGroup group).Yields b (s.switchGroup group) := by
  rw [Walk.switchGroup, Scope.switchGroup]
  cases group.nodes .label with
  | nil => exact h.refuse _ _
  | cons first rest =>
    refine (h.token first .keyword).bind fun keyword => ?_
    exact (h.body group group.span).bind fun body => h.switchLabels body _ _

theorem switch (h : w.Follows b s) (n : Node) : (w.switch n).Yields b (s.switch n) := by
  rw [Walk.switch, Scope.switch]
  refine (h.node n .condition).bind fun child => (h.expr child).bind fun subject => ?_
  refine Yields.bind (.mapM fun group _ => h.switchGroup group) fun groups => ?_
  exact Yields.bind (h.look fun _ _ _ _ _ => rfl) fun _ => .pure _

/-! ## Try statements -/

theorem catchClause (h : w.Follows b s) (n : Node) :
    (w.catchClause n).Yields b (s.catchClause n) := by
  rw [Walk.catchClause, Scope.catchClause]
  refine (h.token n .name).bind fun name => ?_
  exact (h.node n .body).bind fun child => (h.block child).bind fun _ => .pure _

theorem atEnd (h : w.Follows b s) (n : Node) (fallback : Span) :
    (w.atEnd n fallback).Yields b (s.atEnd n fallback) := by
  rw [Walk.atEnd, Scope.atEnd]
  cases n.node? .finallyClause with
  | some child =>
    exact (h.node child .body).bind fun body => (h.block body).bind fun _ => .pure _
  | none => exact .pure _

theorem tryCatch (h : w.Follows b s) (n : Node) : (w.tryCatch n).Yields b (s.tryCatch n) := by
  rw [Walk.tryCatch, Scope.tryCatch]
  refine (h.node n .body).bind fun child => (h.block child).bind fun body => ?_
  refine Yields.bind (.mapM fun clause _ => h.catchClause clause) fun clauses => ?_
  exact (h.atEnd n n.span).bind fun _ => .pure _

/-! ## Statements -/

theorem condition (h : w.Follows b s) (n : Node) : (w.condition n).Yields b (s.condition n) :=
  (h.node n .condition).bind fun child => (h.expr child).bind fun _ => .pure _

theorem assertion (h : w.Follows b s) (n : Node) : (w.assertion n).Yields b (s.assertion n) :=
  (h.condition n).bind fun _ => (h.expr? n .message).bind fun _ => .pure _

theorem elseBranch (h : w.Follows b s) (n : Node) :
    (w.elseBranch (s.spanOf n) n).Yields b (s.elseBranch n) := by
  rw [Walk.elseBranch, Scope.elseBranch]
  cases n.node? .elseBranch with
  | some child => exact h.stmt child
  | none => exact .pure _

theorem choice (h : w.Follows b s) (n : Node) :
    (w.choice (s.spanOf n) n).Yields b (s.choice n) := by
  rw [Walk.choice, Scope.choice]
  refine (h.condition n).bind fun condition => ?_
  refine (h.node n .thenBranch).bind fun child => (h.stmt child).bind fun yes => ?_
  exact (h.elseBranch n).bind fun _ => .pure _

theorem whileLoop (h : w.Follows b s) (n : Node) : (w.whileLoop n).Yields b (s.whileLoop n) := by
  rw [Walk.whileLoop, Scope.whileLoop]
  refine (h.condition n).bind fun condition => ?_
  exact (h.node n .body).bind fun child => (h.stmt child).bind fun _ => .pure _

theorem synchronized (h : w.Follows b s) (n : Node) :
    (w.synchronized n).Yields b (s.synchronized n) := by
  rw [Walk.synchronized, Scope.synchronized]
  refine (h.node n .condition).bind fun child => (h.expr child).bind fun lock => ?_
  exact (h.node n .body).bind fun child => (h.stmt child).bind fun _ => .pure _

theorem returnValue (h : w.Follows b s) (n : Node) :
    (w.returnValue (s.spanOf n) n).Yields b (s.returnValue n) :=
  (h.expr? n .expression).bind fun _ => .pure _

theorem placed (n : Node) {x : Building StmtShape} {r : Lowered StmtShape} (h : x.Yields b r) :
    (Walk.placed (s.spanOf n) x).Yields b (s.placed n r) :=
  h.bind fun _ => .pure _

theorem single (h : w.Follows b s) (n : Node) :
    (w.single (s.spanOf n) n).Yields b (s.single n) := by
  rw [Walk.single, Scope.single]
  refine (h.blockStatement n).bind fun several => ?_
  match several with
  | [statement] => exact .pure _
  | [] => exact .pure _
  | _ :: _ :: _ => exact .pure _

theorem statement (h : w.Follows b s) (n : Node) : (w.statement n).Yields b (s.statement n) := by
  rw [Walk.statement, Scope.statement]
  refine h.bind_spanOf n ?_
  cases n.kind with
  | block => exact h.block n
  | assertStatement => exact placed n (h.assertion n)
  | ifStatement => exact placed n (h.choice n)
  | forStatement => exact h.forLoop n
  | whileStatement => exact placed n (h.whileLoop n)
  | tryStatement => exact h.tryCatch n
  | switchStatement => exact h.switch n
  | synchronizedStatement => exact placed n (h.synchronized n)
  | returnStatement => exact placed n (h.returnValue n)
  | throwStatement | expressionStatement =>
    refine placed n ?_
    exact (h.node n .expression).bind fun child => (h.expr child).bind fun _ => .pure _
  | breakStatement | continueStatement => exact placed n (.pure _)
  | labeledStatement | localVariableDeclaration | typeDeclaration | methodDeclaration =>
    exact h.single n
  | _ => exact h.refuse _ _

end GroovyLowering.Walk.Follows
