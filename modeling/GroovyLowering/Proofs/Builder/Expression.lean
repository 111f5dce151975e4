import GroovyLowering.Builder.Expression
import GroovyLowering.Proofs.Builder.Declaration

/-!
# Building expressions restores the builder

One theorem per construct, and one for the dispatch over all of them (`Walk.Follows.expression`).
-/

namespace GroovyLowering.Walk.Follows

open Building

variable {w : Walk} {b : Builder} {s : Scope}

/-! ## Arguments -/

theorem element (h : w.Follows b s) (n : Node) : (w.element n).Yields b (s.element n) := by
  rw [Walk.element, Scope.element]
  refine (h.node n .expression).bind fun child => (h.expr child).bind fun e => ?_
  exact .ite (.pure _) (.pure _)

theorem elements (h : w.Follows b s) (n : Node) : (w.elements n).Yields b (s.elements n) :=
  .mapM fun child _ => h.element child

theorem key (h : w.Follows b s) (label : Node) : (w.key label).Yields b (s.key label) := by
  rw [Walk.key, Scope.key]
  cases label.token? .keyword with
  | some word => exact .pure _
  | none => exact (h.node label .primary).bind fun child => (h.expr child).bind fun _ => .pure _

theorem mapEntry (h : w.Follows b s) (n : Node) : (w.mapEntry n).Yields b (s.mapEntry n) := by
  rw [Walk.mapEntry, Scope.mapEntry]
  refine (h.node n .value).bind fun child => (h.expr child).bind fun value => ?_
  refine .ite (.pure _) ?_
  exact (h.node n .label).bind fun label => (h.key label).bind fun _ => .pure _

theorem mapEntries (h : w.Follows b s) (n : Node) :
    (w.mapEntries n).Yields b (s.mapEntries n) :=
  .mapM fun child _ => h.mapEntry child

theorem argumentList (h : w.Follows b s) (n : Node) :
    (w.argumentList n).Yields b (s.argumentList n) :=
  .ite ((h.mapEntries n).bind fun _ => .pure _) ((h.elements n).bind fun _ => .pure _)

theorem arguments (h : w.Follows b s) (n : Node) : (w.arguments n).Yields b (s.arguments n) := by
  rw [Walk.arguments, Scope.arguments]
  cases n.node? .list with
  | some list => exact (h.argumentList list).bind fun _ => .pure _
  | none => exact .pure _

theorem subscript (h : w.Follows b s) (n : Node) : (w.subscript n).Yields b (s.subscript n) :=
  (h.elements n).bind fun _ => .pure _

theorem creator (h : w.Follows b s) (n : Node) : (w.creator n).Yields b (s.creator n) := by
  rw [Walk.creator, Scope.creator]
  refine (h.node n .name).bind fun name => ?_
  refine (h.look (Scope.createdType_reads name)).bind fun type => ?_
  cases n.node? .arguments with
  | some child => exact (h.arguments child).bind fun _ => .pure _
  | none =>
    refine .ite ?_ (h.refuse _ _)
    exact Yields.bind (.mapM fun child _ => h.expr child) fun _ => .pure _

/-! ## Paths -/

theorem namePart (h : w.Follows b s) (n : Node) : (w.namePart n).Yields b (s.namePart n) := by
  rw [Walk.namePart, Scope.namePart]
  cases (n.token? .identifier).or (n.token? .keyword) with
  | some t => exact .pure _
  | none =>
    cases n.token? .literal with
    | some t => exact Yields.bind (h.look fun _ _ _ _ _ => rfl) fun _ => .pure _
    | none =>
      cases n.node? .dynamic with
      | some child => exact (h.expr child).bind fun _ => .pure _
      | none => exact h.refuse _ _

theorem member (h : w.Follows b s) (receiver : Expr) (n namePart : Node) :
    (w.member receiver n namePart).Yields b (s.member receiver n namePart) := by
  rw [Walk.member, Scope.member]
  refine (h.namePart namePart).bind fun name => ?_
  refine (h.look (Scope.typeArguments?_reads n)).bind fun generics => ?_
  dsimp only
  cases Scope.memberShape? receiver name generics (n.has .atSign)
    ((n.token? .operator).map Token.text) with
  | some shape => exact .pure _
  | none => exact h.refuse _ _

theorem pathElement (h : w.Follows b s) (receiver : Expr) (n : Node) :
    (w.pathElement receiver n).Yields b (s.pathElement receiver n) := by
  rw [Walk.pathElement, Scope.pathElement]
  cases n.node? .namePart with
  | some child => exact h.member receiver n child
  | none =>
    cases n.node? .index with
    | some child => exact (h.subscript child).bind fun _ => .pure _
    | none =>
      cases n.node? .arguments with
      | some child => exact (h.arguments child).bind fun arguments => h.look fun _ _ _ _ _ => rfl
      | none =>
        cases n.node? .closure with
        | some child => exact (h.closure child).bind fun _ => .pure _
        | none => exact h.refuse _ _

theorem pathElements (h : w.Follows b s) (receiver : Expr) (elements : List Node) :
    (w.pathElements receiver elements).Yields b (s.pathElements receiver elements) :=
  .foldlM (fun receiver child _ => h.pathElement receiver child) receiver

theorem path (h : w.Follows b s) (n : Node) : (w.path n).Yields b (s.path n) := by
  rw [Walk.path, Scope.path]
  refine (h.node n .primary).bind fun child => (h.expr child).bind fun primary => ?_
  exact (h.pathElements primary _).bind fun _ => .pure _

/-! ## Commands -/

theorem argumentList? (h : w.Follows b s) (n : Node) :
    (w.argumentList? n).Yields b (s.argumentList? n) := by
  rw [Walk.argumentList?, Scope.argumentList?]
  cases n.node? .arguments with
  | some list => exact (h.argumentList list).bind fun _ => .pure _
  | none => exact .pure _

theorem commandArgument (h : w.Follows b s) (receiver : Expr) (n : Node) :
    (w.commandArgument receiver n).Yields b (s.commandArgument receiver n) := by
  rw [Walk.commandArgument, Scope.commandArgument]
  refine (h.node n .primary).bind fun child => (h.expr child).bind fun primary => ?_
  cases n.node? .arguments with
  | some list =>
    refine .ite (h.refuse _ _) ?_
    exact (h.argumentList list).bind fun _ => .pure _
  | none =>
    refine .ite ?_ (.pure _)
    exact (h.pathElements _ _).bind fun _ => .pure _

theorem command (h : w.Follows b s) (n : Node) : (w.command n).Yields b (s.command n) := by
  rw [Walk.command, Scope.command_eq]
  refine (h.node n .base).bind fun child => (h.expr child).bind fun base => ?_
  refine (h.argumentList? n).bind fun arguments => ?_
  have hhead : Scope.Reads fun s => s.commandHead n base arguments := by
    intro place expr expr' stmt stmt'
    simp only [Scope.commandHead_eq]
    rfl
  refine (h.look hhead).bind fun head => ?_
  have hwords := Yields.foldlM (fun receiver word (_ : word ∈ n.nodes .commandArgument) =>
    h.commandArgument receiver word) head
  exact hwords.bind fun _ => .pure _

/-! ## Interpolated strings -/

theorem gstringValue (h : w.Follows b s) (n : Node) :
    (w.gstringValue n).Yields b (s.gstringValue n) := by
  rw [Walk.gstringValue, Scope.gstringValue]
  cases n.node? .path with
  | some path => exact Yields.bind (h.look fun _ _ _ _ _ => rfl) fun _ => .pure _
  | none =>
    cases n.node? .expression with
    | some child => exact (h.expr child).bind fun _ => .pure _
    | none =>
      cases n.node? .closure with
      | some child => exact (h.closure child).bind fun closure => .ite (.pure _) (.pure _)
      | none => exact .pure _

theorem gstring (h : w.Follows b s) (n : Node) : (w.gstring n).Yields b (s.gstring n) := by
  rw [Walk.gstring, Scope.gstring]
  refine (h.token n .opening).bind fun first => (h.token n .closing).bind fun last => ?_
  exact Yields.bind (.mapM fun child _ => h.gstringValue child) fun _ => .pure _

/-! ## Operators -/

theorem stepAfter (h : w.Follows b s) (n : Node) :
    (w.stepAfter (s.spanOf n) n).Yields b (s.stepAfter n) := by
  rw [Walk.stepAfter, Scope.stepAfter]
  refine (h.node n .operand).bind fun child => (h.expr child).bind fun operand => ?_
  refine (h.token n .operator).bind fun op => ?_
  cases Step.ofText? op.text with
  | some step => exact .pure _
  | none => exact h.refuse _ _

theorem negateConstant_reads (n operandNode : Node) (c : Constant) :
    Scope.Reads fun s => s.negateConstant n operandNode c := by
  intro place expr expr' stmt stmt'
  simp only [Scope.negateConstant]
  cases c.value <;> rfl

theorem unary (h : w.Follows b s) (n : Node) : (w.unary n).Yields b (s.unary n) := by
  rw [Walk.unary, Scope.unary]
  refine (h.token n .operator).bind fun op => (h.node n .operand).bind fun operandNode => ?_
  refine (h.expr operandNode).bind fun operand => ?_
  refine .ite ?_ (.ite ?_ ?_)
  · cases operand.foldable? with
    | some c => exact .pure _
    | none => exact .pure _
  · cases operand.foldable? with
    | some c => exact h.look (negateConstant_reads n operandNode c)
    | none => exact .pure _
  · cases Step.ofText? op.text with
    | some step => exact .pure _
    | none => exact h.refuse _ _

theorem negation (h : w.Follows b s) (n : Node) :
    (w.negation (s.spanOf n) n).Yields b (s.negation n) := by
  rw [Walk.negation, Scope.negation]
  refine (h.node n .operand).bind fun child => (h.expr child).bind fun operand => ?_
  refine (h.token n .operator).bind fun op => ?_
  exact .ite (.pure _) (.ite (.pure _) (h.refuse _ _))

theorem binary (h : w.Follows b s) (n : Node) : (w.binary n).Yields b (s.binary n) := by
  rw [Walk.binary, Scope.binary]
  refine (h.node n .left).bind fun child => (h.expr child).bind fun left => ?_
  refine (h.node n .right).bind fun child => (h.expr child).bind fun right => ?_
  cases Scope.binaryShape? left (String.join ((n.tokens .operator).map Token.text)) right with
  | some shape => exact .pure _
  | none => exact h.refuse _ _

theorem assignment (h : w.Follows b s) (n : Node) :
    (w.assignment n).Yields b (s.assignment n) := by
  rw [Walk.assignment, Scope.assignment]
  refine (h.node n .left).bind fun leftNode => (h.expr leftNode).bind fun left => ?_
  refine .ite ?_ (h.look fun _ _ _ _ _ => rfl)
  refine (h.token n .operator).bind fun op => ?_
  cases (BinaryOp.ofText? op.text).filter BinaryOp.isAssignment with
  | some op => exact (h.node n .right).bind fun child => (h.expr child).bind fun _ => .pure _
  | none => exact h.refuse _ _

theorem cast (h : w.Follows b s) (n : Node) : (w.cast (s.spanOf n) n).Yields b (s.cast n) := by
  rw [Walk.cast, Scope.cast]
  refine (h.node n .type).bind fun typeNode => ?_
  refine (h.look (Scope.typeRef_reads typeNode)).bind fun type => ?_
  exact (h.node n .operand).bind fun child => (h.expr child).bind fun _ => .pure _

theorem typeTest (h : w.Follows b s) (n : Node) :
    (w.typeTest (s.spanOf n) n).Yields b (s.typeTest n) := by
  rw [Walk.typeTest, Scope.typeTest]
  refine (h.node n .left).bind fun child => (h.expr child).bind fun left => ?_
  refine (h.node n .type).bind fun typeNode => ?_
  refine (h.look (Scope.typeRef_reads typeNode)).bind fun type => ?_
  refine (h.token n .operator).bind fun op => ?_
  exact .ite (.pure _) (.ite (.pure _) (h.refuse _ _))

theorem conditional (h : w.Follows b s) (n : Node) :
    (w.conditional (s.spanOf n) n).Yields b (s.conditional n) := by
  rw [Walk.conditional, Scope.conditional]
  refine (h.node n .condition).bind fun child => (h.expr child).bind fun condition => ?_
  refine (h.node n .elseBranch).bind fun child => (h.expr child).bind fun no => ?_
  refine .ite (.pure _) ?_
  exact (h.node n .thenBranch).bind fun child => (h.expr child).bind fun _ => .pure _

/-! ## Expressions -/

theorem parenthesized (h : w.Follows b s) (n : Node) :
    (w.parenthesized n).Yields b (s.parenthesized n) :=
  (h.node n .expression).bind fun child => (h.expr child).bind fun _ => .pure _

theorem list (h : w.Follows b s) (n : Node) : (w.list (s.spanOf n) n).Yields b (s.list n) :=
  (h.elements n).bind fun _ => .pure _

theorem map (h : w.Follows b s) (n : Node) : (w.map (s.spanOf n) n).Yields b (s.map n) :=
  (h.mapEntries n).bind fun _ => .pure _

theorem nameOf (h : w.Follows b s) (n : Node) (role : Role) :
    (Walk.nameOf (s.spanOf n) n role).Yields b (s.nameOf n role) :=
  (h.token n role).bind fun _ => .pure _

theorem expression (h : w.Follows b s) (n : Node) :
    (w.expression n).Yields b (s.expression n) := by
  rw [Walk.expression, Scope.expression]
  refine h.bind_spanOf n ?_
  cases n.kind with
  | path => exact h.path n
  | commandExpression => exact h.command n
  | expressionListElement => exact h.element n
  | postfixExpression => exact h.stepAfter n
  | unaryAdd => exact h.unary n
  | unaryNot => exact h.negation n
  | cast => exact h.cast n
  | binary => exact h.binary n
  | typeTest => exact h.typeTest n
  | conditional => exact h.conditional n
  | assignment => exact h.assignment n
  | identifier => exact h.nameOf n .identifier
  | literal => exact h.look fun _ _ _ _ _ => rfl
  | gstring => exact h.gstring n
  | creator => exact h.creator n
  | thisReference => exact .pure _
  | superReference => exact .pure _
  | parExpression => exact h.parenthesized n
  | list => exact h.list n
  | map => exact h.map n
  | builtInType => exact h.nameOf n .primitive
  | closure => exact h.closure n
  | _ => exact h.refuse _ _

end GroovyLowering.Walk.Follows
