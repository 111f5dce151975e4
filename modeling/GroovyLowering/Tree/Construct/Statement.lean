import GroovyLowering.Tree.Construct.Expression

/-!
# Statements, written by hand
-/

namespace GroovyLowering.Production

open Node

/-- An expression as a statement. -/
def expressionStatement (expr : Node) : Node :=
  (bare .expressionStatement).withNode .expression expr

/-- Statements in braces. -/
def block (statements : List Node) : Node :=
  (((bare .block).punct "\x7b").withNodes .statement statements).punct "\x7d"

/-! ## Branches and loops -/

/-- The form `if (c) a else b`. -/
def ifStatement (condition yes : Node) (no : Option Node) : Node :=
  let n := (((bare .ifStatement).keyword "if").withNode .condition
    (parenthesized condition)).withNode .thenBranch yes
  match no with
  | some no => (n.keyword "else").withNode .elseBranch no
  | none => n

/-- The form `while (c) body`. -/
def whileStatement (condition body : Node) : Node :=
  (((bare .whileStatement).keyword "while").withNode .condition (parenthesized condition)).withNode
    .body body

/-- A loop with a header. -/
def forStatement (control body : Node) : Node :=
  (((((bare .forStatement).keyword "for").punct "(").withNode .control control).punct ")").withNode
    .body body

/-- The form `for (T name in collection) body`. -/
def forIn (type : Option Node) (name : String) (collection body : Node) : Node :=
  forStatement
    (((((bare .enhancedForControl).withNode? .type type).named name).keyword "in").withNode
      .expression collection)
    body

/-- The form `for (init; condition; update) body`. -/
def forClassic (init condition update : Option Node) (body : Node) : Node :=
  let update := update.map fun expr => (bare .forUpdate).withNode .expression expr
  forStatement
    (((((bare .classicForControl).withNode? .init init).punct ";").withNode? .condition
      condition).punct ";" |>.withNode? .update update)
    body

/-- An expression as the first clause of a loop header. -/
def forInitExpression (expr : Node) : Node := (bare .forInit).withNode .expression expr

/-- A declaration as the first clause of a loop header. -/
def forInitDeclaration (declaration : Node) : Node :=
  (bare .forInit).withNode .statement declaration

/-! ## Jumps -/

/-- The form `return value`. -/
def returnStatement (value : Option Node) : Node :=
  ((bare .returnStatement).keyword "return").withNode? .expression value

/-- The form `throw value`. -/
def throwStatement (value : Node) : Node :=
  ((bare .throwStatement).keyword "throw").withNode .expression value

/-- A jump, to a label if there is one. -/
def jump (kind : NodeKind) (word : String) : Option String → Node
  | some label => ((bare kind).keyword word).write .label .identifier label
  | none => (bare kind).keyword word

/-- The form `break label`. -/
def breakStatement (label : Option String) : Node := jump .breakStatement "break" label

/-- The form `continue label`. -/
def continueStatement (label : Option String) : Node := jump .continueStatement "continue" label

/-- The form `label: statement`. -/
def labeled (label : String) (statement : Node) : Node :=
  (((bare .labeledStatement).write .label .identifier label).punct ":").withNode .statement
    statement

/-! ## Other statements -/

/-- The form `assert condition : message`. -/
def assertStatement (condition : Node) (message : Option Node) : Node :=
  let n := ((bare .assertStatement).keyword "assert").withNode .condition condition
  match message with
  | some message => (n.punct ":").withNode .message message
  | none => n

/-- The form `synchronized (lock) body`. -/
def synchronizedStatement (lock body : Node) : Node :=
  (((bare .synchronizedStatement).keyword "synchronized").withNode .condition
    (parenthesized lock)).withNode .body body

/-- The form `try body`, catch clauses and a last block. -/
def tryStatement (body : Node) (catches : List Node) (last : Option Node) : Node :=
  let last := last.map fun body =>
    ((bare .finallyClause).keyword "finally").withNode .body body
  ((((bare .tryStatement).keyword "try").withNode .body body).withNodes .catchClause
    catches).withNode? .finallyClause last

/-- The form `catch (A | B name) body`; without types the clause is untyped. -/
def catchClause (types : List (List String)) (name : String) (body : Node) : Node :=
  let alternatives :=
    if types.isEmpty then none
    else some ((bare .catchType).withSeparated "|" .element (types.map qualifiedClassName))
  ((((((bare .catchClause).keyword "catch").punct "(").withNode? .catchType alternatives).named
    name).punct ")").withNode .body body

/-- The form `switch (subject)` and its groups. -/
def switchStatement (subject : Node) (groups : List Node) : Node :=
  (((((bare .switchStatement).keyword "switch").withNode .condition
    (parenthesized subject)).punct "\x7b").withNodes .group groups).punct "\x7d"

/-- Labels and the statements they share. -/
def switchGroup (labels statements : List Node) : Node :=
  ((bare .switchGroup).withNodes .label labels).withNode .body (blockStatements statements)

/-- The form `case expr:`. -/
def caseLabel (expr : Node) : Node :=
  (((bare .switchLabel).keyword "case").withNode .expression expr).punct ":"

/-- The form `default:`. -/
def defaultLabel : Node := ((bare .switchLabel).keyword "default").punct ":"

end GroovyLowering.Production
