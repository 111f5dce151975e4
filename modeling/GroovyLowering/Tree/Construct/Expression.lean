import GroovyLowering.Tree.Construct.Basic

/-!
# Expressions and types, written by hand

One function per production, with the roles the lowering looks for and the punctuation a parser
would have kept.
-/

namespace GroovyLowering.Production

open Node

/-! ## Names and literals -/

/-- A variable name. -/
def identifier (name : String) : Node :=
  (bare .identifier).write .identifier .identifier name

/-- A literal of a given category. -/
def literal (kind : TokenKind) (text : String) : Node := (bare .literal).write .literal kind text

/-- An integer literal. -/
def integer (text : String) : Node := literal .integerLiteral text

/-- A literal with a decimal point or an exponent. -/
def decimal (text : String) : Node := literal .floatingPointLiteral text

/-- A string literal, delimiters included. -/
def string (text : String) : Node := literal .stringLiteral text

/-- The form `true` or `false`. -/
def boolean (value : Bool) : Node := literal .booleanLiteral (if value then "true" else "false")

/-- The form `null`. -/
def null : Node := literal .nullLiteral "null"

/-- The form `this`. -/
def thisReference : Node := (bare .thisReference).keyword "this"

/-- The form `super`. -/
def superReference : Node := (bare .superReference).keyword "super"

/-- The name of a primitive type, used as an expression. -/
def builtInType (name : String) : Node :=
  (bare .builtInType).write .primitive .builtInPrimitiveType name

/-- An expression in parentheses. -/
def parenthesized (expr : Node) : Node :=
  (((bare .parExpression).punct "(").withNode .expression expr).punct ")"

/-! ## Lists, maps and closures -/

/-- An element of a list, an argument list or a subscript. -/
def element (expr : Node) : Node := (bare .expressionListElement).withNode .expression expr

/-- The form `*expr` as an element. -/
def spreadElement (expr : Node) : Node :=
  ((bare .expressionListElement).write .spread .operator "*").withNode .expression expr

/-- The form `[a, b]`. -/
def list (elements : List Node) : Node :=
  (((bare .list).punct "[").withList .element elements).punct "]"

/-- The form `[k: v]`, or `[:]` without entries. -/
def map (entries : List Node) : Node :=
  let opened := (bare .map).punct "["
  (if entries.isEmpty then opened.punct ":" else opened.withList .entry entries).punct "]"

/-- The form `label: value`, where the label is a primary expression. -/
def entry (label value : Node) : Node :=
  (((bare .mapEntry).withNode .label ((bare .mapEntryLabel).withNode .primary label)).punct
    ":").withNode .value value

/-- The form `word: value`, where the label is a keyword. -/
def keywordEntry (word : String) (value : Node) : Node :=
  (((bare .mapEntry).withNode .label ((bare .mapEntryLabel).keyword word)).punct ":").withNode
    .value value

/-- The form `*: value`. -/
def spreadEntry (value : Node) : Node :=
  (((bare .mapEntry).write .spread .operator "*").punct ":").withNode .value value

/-- A statement list without braces. -/
def blockStatements (statements : List Node) : Node :=
  (bare .blockStatements).withNodes .statement statements

/-- A closure.  Its body is left out when there are no statements. -/
def closure (params : List Node) (arrow : Bool) (statements : List Node) : Node :=
  let header := ((bare .closure).punct "\x7b").withList .parameter params
  let header := if arrow then header.write .arrow .operator "->" else header
  let body := if statements.isEmpty then none else some (blockStatements statements)
  (header.withNode? .body body).punct "\x7d"

/-! ## Interpolated strings -/

/-- The values of an interpolated string, each but the first behind the next part. -/
def withValues (n : Node) : List Node → List String → Node
  | [], _ => n
  | value :: values, [] => withValues (n.withNode .value value) values []
  | value :: values, part :: parts =>
    let n := n.withNode .value value
    if values.isEmpty then n else withValues (n.write .part .gstringPart part) values parts

/-- An interpolated string: its opening segment, values with parts between them and its closing
segment.  Parts that stand behind the last value are left out. -/
def gstring (opening : String) (values : List Node) (parts : List String) (closing : String) :
    Node :=
  (withValues ((bare .gstring).write .opening .gstringBegin opening) values parts).write .closing
    .gstringEnd closing

/-- The form `$name.a.b` inside a string. -/
def gstringPath (name : String) (parts : List String) : Node :=
  let path := parts.foldl (fun n part => n.write .pathPart .gstringPathPart ("." ++ part))
    ((bare .gstringPath).write .identifier .identifier name)
  (bare .gstringValue).withNode .path path

/-- An expression in braces inside a string. -/
def gstringExpression (expr : Node) : Node :=
  (((bare .gstringValue).punct "\x7b").withNode .expression expr).punct "\x7d"

/-- A closure inside a string, with its own braces. -/
def gstringClosure (closure : Node) : Node := (bare .gstringValue).withNode .closure closure

/-- Empty braces inside a string. -/
def gstringEmpty : Node := ((bare .gstringValue).punct "\x7b").punct "\x7d"

/-! ## Creators -/

/-- The class name behind `new`. -/
def createdName (parts : List String) (typeArguments : Option Node) : Node :=
  ((bare .createdName).withNode .name (qualifiedClassName parts)).withNode? .typeArguments
    typeArguments

/-- The primitive type name behind `new`. -/
def createdPrimitive (name : String) : Node :=
  (bare .createdName).write .primitive .builtInPrimitiveType name

/-- The form `new Name(args)`. -/
def newObject (name arguments : Node) : Node :=
  (((bare .creator).keyword "new").withNode .name name).withNode .arguments arguments

/-- The form `new Name[d1][d2][]`. -/
def newArray (name : Node) (dimensions : List Node) (emptyDimensions : Nat) : Node :=
  let sized := dimensions.foldl
    (fun n dimension => ((n.punct "[").withNode .dimension dimension).punct "]")
    (((bare .creator).keyword "new").withNode .name name)
  (List.range emptyDimensions).foldl (fun n _ => n.write .emptyDimension .punct "[]") sized

/-! ## Arguments and paths -/

/-- An argument list without parentheses. -/
def argumentList (elements : List Node) : Node :=
  (bare .argumentList).withList .element (elements.map element)

/-- An argument list of `name: value` entries. -/
def namedArgumentList (entries : List Node) : Node := (bare .argumentList).withList .entry entries

/-- The form `(args)`. -/
def arguments (elements : List Node) : Node :=
  let list := if elements.isEmpty then none else some (argumentList elements)
  (((bare .arguments).punct "(").withNode? .list list).punct ")"

/-- The form `(name: value)`. -/
def namedArguments (entries : List Node) : Node :=
  (((bare .arguments).punct "(").withNode .list (namedArgumentList entries)).punct ")"

/-- A primary and the elements applied to it. -/
def path (primary : Node) (elements : List Node) : Node :=
  ((bare .path).withNode .primary primary).withNodes .element elements

/-- An identifier behind a member operator. -/
def namePart (name : String) : Node := (bare .namePart).write .identifier .identifier name

/-- A member behind an operator: `.`, `?.`, `*.` or `.&`. -/
def member (op name : String) : Node :=
  ((bare .pathElement).operator op).withNode .namePart (namePart name)

/-- The form `.name`. -/
def dot (name : String) : Node := member "." name

/-- A field behind an operator and an at sign. -/
def field (op name : String) : Node :=
  (((bare .pathElement).operator op).write .atSign .operator "@").withNode .namePart
    (namePart name)

/-- The form `.<T>name`. -/
def dotGeneric (name : String) (typeArguments : Node) : Node :=
  (((bare .pathElement).operator ".").withNode .typeArguments typeArguments).withNode .namePart
    (namePart name)

/-- A string literal behind a dot. -/
def dotString (text : String) : Node :=
  ((bare .pathElement).operator ".").withNode .namePart
    ((bare .namePart).write .literal .stringLiteral text)

/-- A keyword behind a dot. -/
def dotKeyword (word : String) : Node :=
  ((bare .pathElement).operator ".").withNode .namePart ((bare .namePart).keyword word)

/-- An expression behind a dot. -/
def dotDynamic (expr : Node) : Node :=
  ((bare .pathElement).operator ".").withNode .namePart ((bare .namePart).withNode .dynamic expr)

/-- The form `(args)` as a path element. -/
def call (elements : List Node) : Node :=
  (bare .pathElement).withNode .arguments (arguments elements)

/-- The form `(name: value)` as a path element. -/
def namedCall (entries : List Node) : Node :=
  (bare .pathElement).withNode .arguments (namedArguments entries)

/-- A closure as a path element. -/
def closureElement (closure : Node) : Node := (bare .pathElement).withNode .closure closure

/-- A subscript that a given bracket opens. -/
def subscript (op : String) (elements : List Node) : Node :=
  (((bare .pathElement).operator op).withNode .index
    ((bare .indexArgs).withList .element elements)).punct "]"

/-- The form `[a, b]` as a path element. -/
def index (elements : List Node) : Node := subscript "[" elements

/-- The form `?[a, b]` as a path element. -/
def safeIndex (elements : List Node) : Node := subscript "?[" elements

/-! ## Command expressions -/

/-- A call without parentheses. -/
def command (base : Node) (arguments : Option (List Node)) (rest : List Node) : Node :=
  (((bare .commandExpression).withNode .base base).withNode? .arguments
    (arguments.map argumentList)).withNodes .commandArgument rest

/-- A further word of a command. -/
def commandArgument (primary : Node) : Node := (bare .commandArgument).withNode .primary primary

/-- A further word with arguments. -/
def commandArgumentCall (primary : Node) (arguments : List Node) : Node :=
  (commandArgument primary).withNode .arguments (argumentList arguments)

/-- A further word with path elements. -/
def commandArgumentPath (primary : Node) (elements : List Node) : Node :=
  (commandArgument primary).withNodes .element elements

/-! ## Operators -/

/-- An operator between two operands. -/
def binary (left : Node) (op : String) (right : Node) : Node :=
  (((bare .binary).withNode .left left).operator op).withNode .right right

/-- An operator that arrives as several tokens. -/
def binarySplit (left : Node) (ops : List String) (right : Node) : Node :=
  (ops.foldl Node.operator ((bare .binary).withNode .left left)).withNode .right right

/-- An assignment. -/
def assignment (left : Node) (op : String) (right : Node) : Node :=
  (((bare .assignment).withNode .left left).operator op).withNode .right right

/-- A step behind its operand. -/
def stepAfter (operand : Node) (op : String) : Node :=
  ((bare .postfixExpression).withNode .operand operand).operator op

/-- A sign or a step in front of its operand. -/
def unary (op : String) (operand : Node) : Node :=
  ((bare .unaryAdd).operator op).withNode .operand operand

/-- The form `!x` or `~x`. -/
def negation (op : String) (operand : Node) : Node :=
  ((bare .unaryNot).operator op).withNode .operand operand

/-- The form `(T) x`. -/
def cast (type operand : Node) : Node :=
  ((((bare .cast).punct "(").withNode .type type).punct ")").withNode .operand operand

/-- The form `x instanceof T` or `x as T`. -/
def typeTest (left : Node) (op : String) (type : Node) : Node :=
  (((bare .typeTest).withNode .left left).operator op).withNode .type type

/-- The form `c ? a : b`. -/
def ternary (condition yes no : Node) : Node :=
  (((((bare .conditional).withNode .condition condition).punct "?").withNode .thenBranch yes).punct
    ":").withNode .elseBranch no

/-- The form `a ?: b`. -/
def elvis (condition no : Node) : Node :=
  (((bare .conditional).withNode .condition condition).operator "?:").withNode .elseBranch no

/-! ## Types -/

/-- A class type. -/
def classType (parts : List String) : Node :=
  (bare .type).withNode .classType
    ((bare .classOrInterfaceType).withNode .name (qualifiedClassName parts))

/-- A class type with type arguments. -/
def genericType (parts : List String) (typeArguments : Node) : Node :=
  (bare .type).withNode .classType
    (((bare .classOrInterfaceType).withNode .name (qualifiedClassName parts)).withNode
      .typeArguments typeArguments)

/-- A primitive type. -/
def primitiveType (name : String) : Node :=
  (bare .type).write .primitive .builtInPrimitiveType name

/-- A type with dimensions appended. -/
def arrayType (type : Node) (dimensions : Nat) : Node :=
  (List.range dimensions).foldl (fun n _ => n.write .dimension .punct "[]") type

/-- The form `<A, B>`; no arguments make a diamond. -/
def typeArguments (arguments : List Node) : Node :=
  (((bare .typeArguments).punct "<").withList .argument arguments).punct ">"

/-- A type as a type argument. -/
def typeArgument (type : Node) : Node := (bare .typeArgument).withNode .type type

/-- A wildcard, with `extends T` or `super T` behind it if there is a bound. -/
def wildcard (bound : Option (String × Node)) : Node :=
  let bare := (bare .typeArgument).write .question .operator "?"
  match bound with
  | some (word, type) => (bare.keyword word).withNode .type type
  | none => bare

end GroovyLowering.Production
