import GroovyLowering.Proofs.Literal.Integer
import GroovyLowering.Proofs.Written.Basic
import GroovyLowering.Proofs.Written.Type

/-!
# Names, literals and operators are written back

One theorem per production.  Its operands are lowered by the scope, and each is known to restore
its tree.
-/

namespace GroovyLowering

open Lowered (Restores)

namespace BinaryOp

theorem ofText?_text (op : BinaryOp) : ofText? op.text = some op := by
  cases op <;> rfl

theorem bracket?_of_isAssignment {op : BinaryOp} (h : op.isAssignment) : op.bracket? = none := by
  cases op with
  | index | safeIndex => cases h
  | _ => rfl

end BinaryOp

theorem Step.ofText?_text (step : Step) : ofText? step.text = some step := by
  cases step <;> rfl

namespace Scope

variable {s : Scope} {n a b c : Node}

/-! ## Names and literals -/

theorem restores_identifier (s : Scope) (name : String) :
    Restores (s.expression (Production.identifier name)) (Production.identifier name) := by
  refine ⟨_, rfl, ?_, rfl, fun _ => rfl, rfl, ?_⟩
  · rw [Expr.text_eq]
    simp [Expr.named, inParentheses, ExprShape.text, Production.identifier]
  · intro name' h
    have htext : name = name' := by
      simpa [Production.identifier] using congrArg Node.text h
    exact ⟨_, rfl, htext⟩

theorem restores_thisReference (s : Scope) :
    Restores (s.expression Production.thisReference) Production.thisReference :=
  .of_shape rfl rfl rfl rfl

theorem restores_superReference (s : Scope) :
    Restores (s.expression Production.superReference) Production.superReference :=
  .of_shape rfl rfl rfl rfl

/-- A literal is lowered to a constant that stands alone. -/
theorem restores_literal {kind : TokenKind} {text : String} {k : Constant}
    (hx : s.expression (Production.literal kind text) =
      .ok (.constant k (Production.literal kind text).span))
    (htext : k.text = text) :
    Restores (s.expression (Production.literal kind text)) (Production.literal kind text) := by
  refine ⟨_, hx, ?_, rfl, fun hkind => absurd rfl hkind, rfl, fun _ h => ?_⟩
  · rw [Expr.text_eq]
    simp [Expr.constant, inParentheses, ExprShape.text, Production.literal, htext]
  · have hkind : NodeKind.literal = .identifier := congrArg Node.kind h
    cases hkind

theorem restores_null (s : Scope) : Restores (s.expression Production.null) Production.null :=
  restores_literal (k := .null) rfl rfl

theorem restores_boolean (s : Scope) (value : Bool) :
    Restores (s.expression (Production.boolean value)) (Production.boolean value) := by
  cases value with
  | false => exact restores_literal (k := .bool false) rfl rfl
  | true => exact restores_literal (k := .bool true) rfl rfl

theorem restores_integer (s : Scope) (value : Nat) :
    Restores (s.expression (Production.integer value.repr)) (Production.integer value.repr) := by
  obtain ⟨number, hread, htext⟩ := Literal.readInteger_repr value
  refine restores_literal (k := .number number !startsWithMinus value.repr) ?_ htext
  show s.literal _ = _
  have htoken : (Production.literal .integerLiteral value.repr).token? .literal =
      some (.unplaced .integerLiteral value.repr) := rfl
  rw [Scope.literal, bind_token htoken, literalValue]
  simp only [Token.kind_unplaced, Token.text_unplaced, TokenKind.readNumber?, hread, Scope.number]
  rfl

/-! ## Parentheses -/

theorem restores_parenthesized (h : Restores (s.expr a) a) (hkind : a.kind ≠ .parExpression) :
    Restores (s.expression (Production.parenthesized a)) (Production.parenthesized a) := by
  obtain ⟨e, he, hrestores⟩ := h
  have hnode : (Production.parenthesized a).node? .expression = some a := rfl
  refine ⟨{ e with span := (Production.parenthesized a).span, parenthesized := true }, ?_,
    ?_, rfl, fun _ => rfl, hrestores.standsAlone, fun _ h => ?_⟩
  · show s.parenthesized _ = _
    rw [Scope.parenthesized, bind_node hnode, Lowered.bind_of_ok he]
    rfl
  · have hbare : e.parenthesized = false := by
      rw [hrestores.parenthesized]
      exact beq_eq_false_iff_ne.2 hkind
    have htext := hrestores.text
    rw [Expr.text_eq, hbare] at htext
    rw [Expr.text_eq]
    simpa [inParentheses, Production.parenthesized] using htext
  · have hkind : NodeKind.parExpression = .identifier := congrArg Node.kind h
    cases hkind

/-! ## Signs and steps -/

theorem restores_stepAfter (h : Restores (s.expr a) a) (step : Step) :
    Restores (s.expression (Production.stepAfter a step.text))
      (Production.stepAfter a step.text) := by
  obtain ⟨e, he, hrestores⟩ := h
  have hnode : (Production.stepAfter a step.text).node? .operand = some a := rfl
  have htoken : (Production.stepAfter a step.text).token? .operator =
      some (.unplaced .operator step.text) := rfl
  have hx : s.stepAfter (Production.stepAfter a step.text) =
      .ok { shape := .stepAfter e step, span := s.spanOf (Production.stepAfter a step.text) } := by
    rw [Scope.stepAfter, bind_node hnode, Lowered.bind_of_ok he, bind_token htoken,
      Token.text_unplaced, Step.ofText?_text]
    rfl
  refine .of_shape hx rfl rfl ?_
  simp [ExprShape.text, Production.stepAfter, Node.operator, hrestores.text]

/-- A step or a sign in front of an operand is lowered to a shape of the operand. -/
theorem restores_unary {op : String} {e : Expr} {shape : ExprShape} (hrestores : e.Restores a)
    (hx : s.unary (Production.unary op a) = .ok { shape, span := (Production.unary op a).span })
    (hshape : shape.isProper) (htext : shape.text = op ++ e.text) :
    Restores (s.expression (Production.unary op a)) (Production.unary op a) := by
  refine .of_shape hx hshape rfl ?_
  rw [htext, unspaced_append, hrestores.text]
  simp [Production.unary, Node.operator]

theorem unary_eq {e : Expr} (op : String) (he : s.expr a = .ok e) (hfold : e.foldable? = none) :
    s.unary (Production.unary op a) =
      if op = "+" then .ok { shape := .plus e, span := (Production.unary op a).span }
      else if op = "-" then .ok { shape := .minus e, span := (Production.unary op a).span }
      else match Step.ofText? op with
        | some step => .ok { shape := .stepBefore step e, span := (Production.unary op a).span }
        | none => s.refuse (Production.unary op a) .unsupportedUnary := by
  have hnode : (Production.unary op a).node? .operand = some a := rfl
  have htoken : (Production.unary op a).token? .operator = some (.unplaced .operator op) := rfl
  rw [Scope.unary, bind_token htoken, bind_node hnode, Lowered.bind_of_ok he, Token.text_unplaced,
    hfold]
  rfl

theorem restores_sign {op : String} (hop : op ∈ ["+", "-"]) (h : Restores (s.expr a) a)
    (hkind : a.kind ≠ .literal) :
    Restores (s.expression (Production.unary op a)) (Production.unary op a) := by
  obtain ⟨e, he, hrestores⟩ := h
  have hx := unary_eq op he (hrestores.foldable? hkind)
  rw [List.mem_cons, List.mem_singleton] at hop
  rcases hop with rfl | rfl
  · exact restores_unary hrestores hx rfl rfl
  · exact restores_unary hrestores hx rfl rfl

theorem restores_stepBefore (step : Step) (h : Restores (s.expr a) a) :
    Restores (s.expression (Production.unary step.text a)) (Production.unary step.text a) := by
  obtain ⟨e, he, hrestores⟩ := h
  have hnode : (Production.unary step.text a).node? .operand = some a := rfl
  have htoken : (Production.unary step.text a).token? .operator =
      some (.unplaced .operator step.text) := rfl
  have hx : s.unary (Production.unary step.text a) =
      .ok { shape := .stepBefore step e, span := (Production.unary step.text a).span } := by
    rw [Scope.unary, bind_token htoken, bind_node hnode, Lowered.bind_of_ok he,
      Token.text_unplaced]
    cases step <;> rfl
  exact restores_unary hrestores hx rfl rfl

theorem restores_negation {op : String} (hop : op ∈ ["!", "~"]) (h : Restores (s.expr a) a) :
    Restores (s.expression (Production.negation op a)) (Production.negation op a) := by
  obtain ⟨e, he, hrestores⟩ := h
  have hnode : (Production.negation op a).node? .operand = some a := rfl
  have htoken : (Production.negation op a).token? .operator = some (.unplaced .operator op) := rfl
  have hx : s.negation (Production.negation op a) =
      if op = "!" then .ok { shape := .not e, span := s.spanOf (Production.negation op a) }
      else if op = "~" then .ok { shape := .bitNot e, span := s.spanOf (Production.negation op a) }
      else s.refuse (Production.negation op a) .unsupportedUnary := by
    rw [Scope.negation, bind_node hnode, Lowered.bind_of_ok he, bind_token htoken,
      Token.text_unplaced]
    rfl
  rw [List.mem_cons, List.mem_singleton] at hop
  rcases hop with rfl | rfl
  · refine .of_shape hx rfl rfl ?_
    simp [ExprShape.text, Production.negation, Node.operator, hrestores.text]
  · refine .of_shape hx rfl rfl ?_
    simp [ExprShape.text, Production.negation, Node.operator, hrestores.text]

/-! ## Operators between two operands -/

theorem binaryShape?_text (left right : Expr) (op : BinaryOp) :
    binaryShape? left op.text right = some (.binary left op right) := by
  have hrange : op.text ≠ ".." ∧ op.text ≠ "..<" := by cases op <;> decide
  rw [binaryShape?, if_neg hrange.1, if_neg hrange.2, BinaryOp.ofText?_text]
  rfl

/-- Two operands and their operator are lowered to the shape that the operator makes of them. -/
theorem restores_binaryShape {op : String} {left right : Expr} {shape : ExprShape}
    (ha : s.expr a = .ok left) (hb : s.expr b = .ok right)
    (hshape : binaryShape? left op right = some shape) (hproper : shape.isProper)
    (htext : unspaced shape.text = unspaced (Production.binary a op b).text) :
    Restores (s.expression (Production.binary a op b)) (Production.binary a op b) := by
  have hleft : (Production.binary a op b).node? .left = some a := rfl
  have hright : (Production.binary a op b).node? .right = some b := rfl
  have hop : String.join (((Production.binary a op b).tokens .operator).map Token.text) = op :=
    String.empty_append
  have hx : s.binary (Production.binary a op b) =
      .ok { shape, span := (Production.binary a op b).span } := by
    rw [Scope.binary, bind_node hleft, Lowered.bind_of_ok ha, bind_node hright,
      Lowered.bind_of_ok hb, hop, hshape]
    rfl
  exact .of_shape hx hproper rfl htext

theorem restores_range {op : String} (ha : Restores (s.expr a) a) (hop : op ∈ ["..", "..<"])
    (hb : Restores (s.expr b) b) :
    Restores (s.expression (Production.binary a op b)) (Production.binary a op b) := by
  obtain ⟨left, hleft, hl⟩ := ha
  obtain ⟨right, hright, hr⟩ := hb
  rw [List.mem_cons, List.mem_singleton] at hop
  rcases hop with rfl | rfl
  · refine restores_binaryShape hleft hright rfl rfl ?_
    simp [ExprShape.text, Production.binary, Node.operator, hl.text, hr.text]
  · refine restores_binaryShape hleft hright rfl rfl ?_
    simp [ExprShape.text, Production.binary, Node.operator, hl.text, hr.text]

/-- The written form of an operator that is no subscript has spaces around it. -/
theorem unspaced_text_binary {op : BinaryOp} (hop : op.bracket? = none) (left right : Expr) :
    unspaced (ExprShape.binary left op right).text =
      unspaced left.text ++ unspaced op.text ++ unspaced right.text := by
  rw [ExprShape.text, hop]
  simp

theorem restores_binary {op : BinaryOp} (ha : Restores (s.expr a) a) (hop : op.bracket? = none)
    (hb : Restores (s.expr b) b) :
    Restores (s.expression (Production.binary a op.text b)) (Production.binary a op.text b) := by
  obtain ⟨left, hleft, hl⟩ := ha
  obtain ⟨right, hright, hr⟩ := hb
  refine restores_binaryShape hleft hright (binaryShape?_text left right op) rfl ?_
  rw [unspaced_text_binary hop, hl.text, hr.text]
  simp [Production.binary, Node.operator]

theorem restores_assignment {name : String} {op : BinaryOp} (hname : name ∉ ["this", "super"])
    (hop : op.isAssignment)
    (ha : Restores (s.expr (Production.identifier name)) (Production.identifier name))
    (hb : Restores (s.expr b) b) :
    Restores (s.expression (Production.assignment (Production.identifier name) op.text b))
      (Production.assignment (Production.identifier name) op.text b) := by
  obtain ⟨left, hl, hleft⟩ := ha
  obtain ⟨right, hr, hright⟩ := hb
  generalize hn : Production.assignment (Production.identifier name) op.text b = n
  have hleftNode : n.node? .left = some (Production.identifier name) := by rw [← hn]; rfl
  have hrightNode : n.node? .right = some b := by rw [← hn]; rfl
  have htoken : n.token? .operator = some (.unplaced .operator op.text) := by rw [← hn]; rfl
  have hassignable : left.isAssignable = true := by
    obtain ⟨v, hv, rfl⟩ := hleft.asVariable? name rfl
    rw [List.mem_cons, List.mem_singleton, not_or] at hname
    rw [Expr.isAssignable, hleft.parenthesized, hv]
    simp [hname, Production.identifier]
  have hread : (BinaryOp.ofText? op.text).filter BinaryOp.isAssignment = some op := by
    rw [BinaryOp.ofText?_text, Option.filter_some, if_pos hop]
  have hx : s.assignment n = .ok { shape := .binary left op right, span := n.span } := by
    rw [Scope.assignment, bind_node hleftNode, Lowered.bind_of_ok hl]
    simp only [hassignable, if_true]
    rw [bind_token htoken, Token.text_unplaced, hread]
    dsimp only
    rw [bind_node hrightNode, Lowered.bind_of_ok hr]
    rfl
  subst hn
  refine .of_shape hx rfl rfl ?_
  rw [unspaced_text_binary (BinaryOp.bracket?_of_isAssignment hop), hleft.text, hright.text]
  simp [Production.assignment, Node.operator]

/-! ## Types as operands -/

/-- A class type is lowered to the type that it writes. -/
theorem exists_typeRef (s : Scope) (parts : List String) :
    ∃ type, s.typeRef (Production.classType parts) = .ok type ∧
      type.text = (Production.classType parts).text := by
  obtain ⟨type, htype, hlayered⟩ := exists_typeRef_classType s parts 0
  refine ⟨type, htype, hlayered.text_eq.trans ?_⟩
  rw [TypeShape.text_named, List.replicate_zero, String.join_nil, String.append_empty]

theorem restores_cast (parts : List String) (h : Restores (s.expr a) a) :
    Restores (s.expression (Production.cast (Production.classType parts) a))
      (Production.cast (Production.classType parts) a) := by
  obtain ⟨e, he, hrestores⟩ := h
  obtain ⟨type, htype, htext⟩ := exists_typeRef s parts
  generalize Production.classType parts = t at htype htext ⊢
  have htypeNode : (Production.cast t a).node? .type = some t := rfl
  have hnode : (Production.cast t a).node? .operand = some a := rfl
  have hx : s.cast (Production.cast t a) =
      .ok { shape := .cast type e false, span := s.spanOf (Production.cast t a) } := by
    rw [Scope.cast, bind_node htypeNode, Lowered.bind_of_ok htype, bind_node hnode,
      Lowered.bind_of_ok he]
    rfl
  refine .of_shape hx rfl rfl ?_
  rw [ExprShape.text, htext]
  simp [Production.cast, hrestores.text]

theorem restores_typeTest {op : String} (h : Restores (s.expr a) a)
    (hop : op ∈ ["as", "instanceof"]) (parts : List String) :
    Restores (s.expression (Production.typeTest a op (Production.classType parts)))
      (Production.typeTest a op (Production.classType parts)) := by
  obtain ⟨e, he, hrestores⟩ := h
  obtain ⟨type, htype, htext⟩ := exists_typeRef s parts
  generalize Production.classType parts = t at htype htext ⊢
  have hnode : (Production.typeTest a op t).node? .left = some a := rfl
  have htypeNode : (Production.typeTest a op t).node? .type = some t := rfl
  have htoken : (Production.typeTest a op t).token? .operator = some (.unplaced .operator op) := rfl
  have hx : s.typeTest (Production.typeTest a op t) =
      if op = "as" then
        .ok { shape := .cast type e true, span := s.spanOf (Production.typeTest a op t) }
      else if op = "instanceof" then
        .ok { shape := .binary e .instanceOf { shape := .classValue type, span := t.span },
              span := s.spanOf (Production.typeTest a op t) }
      else s.refuse (Production.typeTest a op t) .unsupportedTypeTest := by
    rw [Scope.typeTest, bind_node hnode, Lowered.bind_of_ok he, bind_node htypeNode,
      Lowered.bind_of_ok htype, bind_token htoken, Token.text_unplaced]
    rfl
  rw [List.mem_cons, List.mem_singleton] at hop
  rcases hop with rfl | rfl
  · refine .of_shape hx rfl rfl ?_
    rw [ExprShape.text, htext]
    simp [Production.typeTest, Node.operator, hrestores.text]
  · refine .of_shape hx rfl rfl ?_
    have hclass : (Expr.mk (.classValue type) t.span false).text = t.text := by
      rw [Expr.text_eq, ← htext]
      rfl
    rw [unspaced_text_binary rfl, hclass, hrestores.text]
    simp [Production.typeTest, Node.operator, BinaryOp.text]

/-! ## Choices -/

theorem restores_elvis (ha : Restores (s.expr a) a) (hb : Restores (s.expr b) b) :
    Restores (s.expression (Production.elvis a b)) (Production.elvis a b) := by
  obtain ⟨value, hvalue, hv⟩ := ha
  obtain ⟨no, hno, hn⟩ := hb
  have hcondition : (Production.elvis a b).node? .condition = some a := rfl
  have helse : (Production.elvis a b).node? .elseBranch = some b := rfl
  have hx : s.conditional (Production.elvis a b) =
      .ok { shape := .elvis value no, span := s.spanOf (Production.elvis a b) } := by
    rw [Scope.conditional, bind_node hcondition, Lowered.bind_of_ok hvalue, bind_node helse,
      Lowered.bind_of_ok hno]
    rfl
  refine .of_shape hx rfl rfl ?_
  simp [ExprShape.text, Production.elvis, Node.operator, hv.text, hn.text]

theorem restores_ternary (hc : Restores (s.expr c) c) (ha : Restores (s.expr a) a)
    (hb : Restores (s.expr b) b) :
    Restores (s.expression (Production.ternary c a b)) (Production.ternary c a b) := by
  obtain ⟨condition, hcondition, hc⟩ := hc
  obtain ⟨yes, hyes, hy⟩ := ha
  obtain ⟨no, hno, hn⟩ := hb
  have hconditionNode : (Production.ternary c a b).node? .condition = some c := rfl
  have hthen : (Production.ternary c a b).node? .thenBranch = some a := rfl
  have helse : (Production.ternary c a b).node? .elseBranch = some b := rfl
  have htoken : (Production.ternary c a b).token? .operator = none := rfl
  have hx : s.conditional (Production.ternary c a b) =
      .ok { shape := .ternary (.truth condition c.span) yes no,
            span := s.spanOf (Production.ternary c a b) } := by
    rw [Scope.conditional, bind_node hconditionNode, Lowered.bind_of_ok hcondition,
      bind_node helse, Lowered.bind_of_ok hno, htoken]
    simp only [Option.any_none, Bool.false_eq_true, if_false]
    rw [bind_node hthen, Lowered.bind_of_ok hyes]
    rfl
  have htruth : (Expr.truth condition c.span).text = condition.text := by
    rw [Expr.text_eq, Expr.truth]
    rfl
  refine .of_shape hx rfl rfl ?_
  rw [ExprShape.text, htruth]
  simp [Production.ternary, hc.text, hy.text, hn.text]

end Scope

end GroovyLowering
