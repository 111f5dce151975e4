import GroovyLowering.Ast.Expr

/-!
# The written form of expressions and statements

An interpolated string keeps the text of its values, and some names are written as expressions.
Both use the form given here.  It has normalised spaces, and constants are written without quotes.

Statements are written on one line.  That is enough to show what a closure does, so the parts that
such a line has no room for are left out or shown as `...`.
-/

namespace GroovyLowering

/-- A text in parentheses, if they were written. -/
def inParentheses (written : Bool) (text : String) : String :=
  if written then "(" ++ text ++ ")" else text

/-- The mark in front of the dot of an access: a star or a question mark. -/
def safetyMark (safe spreadSafe : Bool) : String :=
  if spreadSafe then "*" else if safe then "?" else ""

/-- The written form of the type of a parameter, with a space behind it, if it has a type. -/
def typePart (type : TypeRef) : String :=
  if type.shape.isDynamic then "" else type.text ++ " "

/-- The written form of a parameter. -/
def Parameter.text (p : Parameter) : String := typePart p.type ++ p.name

/-- A text in braces. -/
def inBraces (text : String) : String := "\x7b " ++ text ++ " \x7d"

mutual

/-- The written form of an expression. -/
def Expr.text : Expr → String
  | ⟨shape, _, parenthesized⟩ => inParentheses parenthesized shape.text

/-- The written form of what an expression says. -/
def ExprShape.text : ExprShape → String
  | .constant value => value.text
  | .name value => value.name
  | .declaration value => value.text
  | .gstring verbatim _ _ => verbatim
  | .property access => access.text "."
  | .field access => access.text ".@"
  | .methodPointer object method => object.text ++ ".&" ++ method.text
  | .methodCall call => call.text
  | .newObject type arguments => "new " ++ type.text ++ arguments.text
  | .newArray type sizes => "new " ++ type.text ++ String.join (sizeTexts sizes)
  | .binary left op right =>
    match op.bracket? with
    | some bracket => left.text ++ bracket ++ right.subscriptText ++ "]"
    | none => left.text ++ " " ++ op.text ++ " " ++ right.text
  | .range lower upper inclusive =>
    lower.text ++ (if inclusive then ".." else "..<") ++ upper.text
  | .stepAfter expr op => expr.text ++ op.text
  | .stepBefore op expr => op.text ++ expr.text
  | .plus expr => "+" ++ expr.text
  | .minus expr => "-" ++ expr.text
  | .not expr => "!" ++ expr.text
  | .bitNot expr => "~" ++ expr.text
  | .truth expr => expr.text
  | .cast type expr true => expr.text ++ " as " ++ type.text
  | .cast type expr false => "(" ++ type.text ++ ") " ++ expr.text
  | .classValue type => type.text
  | .ternary condition yes no => condition.text ++ " ? " ++ yes.text ++ " : " ++ no.text
  | .elvis value no => value.text ++ " ?: " ++ no.text
  | .closure .implicit code => inBraces code.text
  | .closure (.explicit parameters) code =>
    inBraces (", ".intercalate (parameters.map Parameter.text) ++ " -> " ++ code.text)
  | .list elements _ => "[" ++ ", ".intercalate (exprTexts elements) ++ "]"
  | .map [] => "[:]"
  | .map entries => "[" ++ ", ".intercalate (entryTexts entries) ++ "]"
  | .spread expr => "*" ++ expr.text
  | .spreadMap expr => "*:" ++ expr.text
  | .argumentList arguments => arguments.text
  | .clauses exprs => "(" ++ "; ".intercalate (exprTexts exprs) ++ ")"
  | .annotationUse value => "@" ++ value.className
  | .empty => ""

/-- The written form of an expression as a subscript.  Several indices have no brackets of their
own. -/
def Expr.subscriptText : Expr → String
  | ⟨.list elements true, _, _⟩ => ", ".intercalate (exprTexts elements)
  | ⟨shape, _, parenthesized⟩ => inParentheses parenthesized shape.text

/-- The written form of a declaration. -/
def Declaration.text : Declaration → String
  | ⟨declared, _, initializer, _, _⟩ =>
    (if declared.type.shape.isDynamic then "def" else declared.type.text) ++ " " ++ declared.name ++
      (if initializer.isNothing then "" else " = " ++ initializer.text)

/-- The written form of a member of an object, given what stands for the dot. -/
def Access.text (dot : String) : Access → String
  | ⟨object, member, safe, spreadSafe, _⟩ =>
    object.text ++ safetyMark safe spreadSafe ++ dot ++ member.text

/-- The written form of a method call. -/
def Call.text : Call → String
  | ⟨object, method, arguments, implicitThis, safe, spreadSafe, generics⟩ =>
    (if implicitThis then "" else object.text ++ safetyMark safe spreadSafe ++ ".") ++
      (generics.map genericsText).getD "" ++ method.text ++ arguments.text

/-- The written form of arguments. -/
def Arguments.text : Arguments → String
  | .positional args _ => "(" ++ ", ".intercalate (exprTexts args) ++ ")"
  | .named entries _ => "(" ++ ", ".intercalate (entryTexts entries) ++ ")"

/-- The written forms of expressions. -/
def exprTexts : List Expr → List String
  | [] => []
  | e :: rest => e.text :: exprTexts rest

/-- The written forms of array sizes.  A size that is `null` is not written. -/
def sizeTexts : List Expr → List String
  | [] => []
  | e :: rest => (if e.isNull then "[]" else "[" ++ e.text ++ "]") :: sizeTexts rest

/-- The written forms of entries.  An entry that is spread is written by its key alone. -/
def entryTexts : List MapEntry → List String
  | [] => []
  | ⟨key, value, _⟩ :: rest =>
    (if key.isSpreadKey then key.text else key.text ++ ": " ++ value.text) :: entryTexts rest

/-- The written form of a statement. -/
def Stmt.text : Stmt → String
  | ⟨shape, _, _⟩ => shape.text

/-- The written form of what a statement says. -/
def StmtShape.text : StmtShape → String
  | .block statements => "; ".intercalate (stmtTexts statements)
  | .expression expr => expr.text
  | .assertion condition none => "assert " ++ condition.text
  | .assertion condition (some message) => "assert " ++ condition.text ++ " : " ++ message.text
  | .conditional condition yes no =>
    "if (" ++ condition.text ++ ") " ++ inBraces yes.text ++
      (if no.isNothing then "" else " else " ++ inBraces no.text)
  | .forLoop none collection body => "for (" ++ collection.text ++ ") " ++ inBraces body.text
  | .forLoop (some binder) collection body =>
    "for (" ++ binder.name ++ " in " ++ collection.text ++ ") " ++ inBraces body.text
  | .whileLoop condition body => "while (" ++ condition.text ++ ") " ++ inBraces body.text
  | .tryCatch body _ _ => "try " ++ inBraces body.text ++ " ..."
  | .switch subject _ _ => "switch (" ++ subject.text ++ ") " ++ inBraces "..."
  | .synchronized lock body => "synchronized (" ++ lock.text ++ ") " ++ inBraces body.text
  | .returnValue value => "return " ++ value.text
  | .throwValue value => "throw " ++ value.text
  | .breakLoop none => "break"
  | .breakLoop (some label) => "break " ++ label
  | .continueLoop none => "continue"
  | .continueLoop (some label) => "continue " ++ label
  | .empty => ""

/-- The written forms of statements. -/
def stmtTexts : List Stmt → List String
  | [] => []
  | s :: rest => s.text :: stmtTexts rest

end

end GroovyLowering
