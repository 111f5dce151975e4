import GroovyLowering.Ast.Unit
import Mathlib.Logic.Relation

/-!
# What is inside a file

The expressions and statements inside a file are its parts, the parts of those, and so on.  An
expression is a part together with the slot it stands in, since what may stand somewhere depends on
the construct around it.

`parts` goes one step inwards, for every piece of syntax.  `Part.Inside` is any number of steps.
-/

namespace GroovyLowering

/-- Where an expression stands. -/
inductive Slot where
  /-- The condition of a branch, a loop, an assertion or a choice between values. -/
  | condition
  /-- Behind the bracket of a subscript. -/
  | subscript
  /-- An expression that is a statement. -/
  | statement
  /-- What a loop with a header goes over. -/
  | header
  /-- The first clause of a header. -/
  | init
  /-- One of several expressions in the first clause of a header. -/
  | initItem
  /-- Anywhere else. -/
  | operand
deriving DecidableEq, Repr

/-- An expression in its slot, or a statement. -/
inductive Part where
  /-- An expression. -/
  | expr (slot : Slot) (e : Expr)
  /-- A statement. -/
  | stmt (s : Stmt)

/-- An expression that is nothing special where it stands. -/
def Expr.part (e : Expr) : Part := .expr .operand e

/-! ## One step inwards -/

def Annotation.parts (a : Annotation) : List Part := a.members.map fun m => m.2.part

def Parameter.parts (p : Parameter) : List Part :=
  p.annotations.flatMap Annotation.parts ++ p.defaultValue.toList.map Expr.part

def ClosureParameters.parts : ClosureParameters → List Part
  | .implicit => []
  | .explicit parameters => parameters.flatMap Parameter.parts

def MapEntry.parts (m : MapEntry) : List Part := [m.key.part, m.value.part]

def Arguments.parts : Arguments → List Part
  | .positional args _ => args.map Expr.part
  | .named entries _ => entries.flatMap MapEntry.parts

def Call.parts (c : Call) : List Part := c.object.part :: c.method.part :: c.arguments.parts

def Access.parts (a : Access) : List Part := [a.object.part, a.member.part]

def Declaration.parts (d : Declaration) : List Part :=
  d.initializer.part :: d.annotations.flatMap Annotation.parts

/-- The clauses of a list, given the slot of the list.  Only the first clause of a header is
special, and everything in it. -/
def clauseParts : Slot → List Expr → List Part
  | .header, first :: others => .expr .init first :: others.map Expr.part
  | .init, clauses => clauses.map (.expr .initItem)
  | _, clauses => clauses.map Expr.part

/-- The slot of the right operand of an operator. -/
def BinaryOp.rightSlot (op : BinaryOp) : Slot :=
  match op with
  | .index | .safeIndex => .subscript
  | _ => .operand

def ExprShape.parts (slot : Slot) : ExprShape → List Part
  | .constant _ | .name _ | .classValue _ | .empty => []
  | .declaration value => value.parts
  | .gstring _ strings values => strings.map Expr.part ++ values.map Expr.part
  | .property access | .field access => access.parts
  | .methodPointer object method => [object.part, method.part]
  | .methodCall call => call.parts
  | .newObject _ arguments => arguments.parts
  | .newArray _ sizes => sizes.map Expr.part
  | .binary left op right => [left.part, .expr op.rightSlot right]
  | .range lower upper _ => [lower.part, upper.part]
  | .stepAfter expr _ | .stepBefore _ expr => [expr.part]
  | .plus expr | .minus expr | .not expr | .bitNot expr => [expr.part]
  | .truth expr => [expr.part]
  | .cast _ expr _ => [expr.part]
  | .ternary condition yes no => [.expr .condition condition, yes.part, no.part]
  | .elvis value no => [value.part, no.part]
  | .closure parameters code => parameters.parts ++ [.stmt code]
  | .list elements _ => elements.map Expr.part
  | .map entries => entries.flatMap MapEntry.parts
  | .spread expr | .spreadMap expr => [expr.part]
  | .argumentList arguments => arguments.parts
  | .clauses exprs => clauseParts slot exprs
  | .annotationUse value => value.parts

def CatchClause.parts (c : CatchClause) : List Part := c.parameter.parts ++ [.stmt c.body]

def SwitchCase.parts (c : SwitchCase) : List Part := [c.value.part, .stmt c.body]

def StmtShape.parts : StmtShape → List Part
  | .block statements => statements.map .stmt
  | .expression expr => [.expr .statement expr]
  | .assertion condition message => .expr .condition condition :: message.toList.map Expr.part
  | .conditional condition yes no => [.expr .condition condition, .stmt yes, .stmt no]
  | .forLoop binder collection body =>
    binder.toList.flatMap Parameter.parts ++ [.expr .header collection, .stmt body]
  | .whileLoop condition body => [.expr .condition condition, .stmt body]
  | .tryCatch body catches atEnd =>
    .stmt body :: (catches.flatMap CatchClause.parts ++ [.stmt atEnd])
  | .switch subject cases otherwise =>
    subject.part :: (cases.flatMap SwitchCase.parts ++ [.stmt otherwise])
  | .synchronized lock body => [lock.part, .stmt body]
  | .returnValue value | .throwValue value => [value.part]
  | .breakLoop _ | .continueLoop _ | .empty => []

/-- The parts of a part. -/
def Part.parts : Part → List Part
  | .expr slot e => e.shape.parts slot
  | .stmt s => s.shape.parts

def MethodDecl.parts (m : MethodDecl) : List Part :=
  m.parameters.flatMap Parameter.parts ++ m.body.toList.map .stmt ++
    m.annotations.flatMap Annotation.parts

/-- The parts of a file. -/
def CompilationUnit.parts (u : CompilationUnit) : List Part :=
  u.package.toList.flatMap (fun p => p.annotations.flatMap Annotation.parts) ++
    u.imports.flatMap (fun i => i.annotations.flatMap Annotation.parts) ++
    u.statements.map .stmt ++ u.methods.flatMap MethodDecl.parts

/-! ## Any number of steps inwards -/

/-- The second part is the first one or somewhere inside it. -/
def Part.Inside : Part → Part → Prop := Relation.ReflTransGen fun p q => q ∈ p.parts

/-- A part is somewhere inside a file. -/
def CompilationUnit.Contains (u : CompilationUnit) (q : Part) : Prop :=
  ∃ p ∈ u.parts, p.Inside q

/-- The expression of a statement of the script is inside the file. -/
theorem CompilationUnit.contains_expression? {u : CompilationUnit} {x : Stmt}
    (hx : x ∈ u.statements) {e : Expr} (he : x.expression? = some e) :
    u.Contains (.expr .statement e) := by
  obtain ⟨shape, span, labels⟩ := x
  cases shape with
  | expression e' =>
    cases he
    have hunit : .stmt ⟨.expression e, span, labels⟩ ∈ u.parts :=
      List.mem_append_left _ (List.mem_append_right _ (List.mem_map_of_mem hx))
    have hpart : .expr .statement e ∈ (Part.stmt ⟨.expression e, span, labels⟩).parts :=
      List.mem_cons_self
    exact ⟨_, hunit, .single hpart⟩
  | _ => cases he

end GroovyLowering
