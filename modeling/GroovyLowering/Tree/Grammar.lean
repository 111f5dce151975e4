/-!
# The vocabulary of the trees

A tree is built from three closed vocabularies: the production a node comes from (`NodeKind`), the
part a child plays inside its parent (`Role`) and the lexical category of a token (`TokenKind`).

Each has a display name, which messages quote and by which a tree is read, and a list of all its
members.
-/

namespace GroovyLowering

/-- The production of the grammar that a node comes from. -/
inductive NodeKind where
  /-- The whole file: a package, imports and statements. -/
  | compilationUnit
  | packageDeclaration
  | importDeclaration
  /-- Part tokens with dots between them. -/
  | qualifiedName
  | qualifiedClassName
  | qualifiedClassNameList
  /-- Statements between braces. -/
  | block
  /-- Statements without braces, as in a closure or a switch group. -/
  | blockStatements
  | assertStatement
  | ifStatement
  | forStatement
  /-- The header of a loop over a collection. -/
  | enhancedForControl
  /-- The header of a loop with three clauses. -/
  | classicForControl
  | forInit
  | forUpdate
  | whileStatement
  | tryStatement
  | catchClause
  | catchType
  | finallyClause
  | switchStatement
  /-- Labels and the statements they share. -/
  | switchGroup
  | switchLabel
  | synchronizedStatement
  | returnStatement
  | throwStatement
  | breakStatement
  | continueStatement
  /-- A label and the statement it names. -/
  | labeledStatement
  | expressionStatement
  | localVariableDeclaration
  | variableDeclarator
  | variableInitializer
  | arrayInitializer
  /-- The names of a tuple declaration. -/
  | typeNamePairs
  | typeNamePair
  | methodDeclaration
  | returnType
  | formalParameters
  | formalParameter
  /-- A class, interface, enum or trait. -/
  | typeDeclaration
  | modifiers
  /-- A keyword or an annotation. -/
  | modifier
  | annotationUse
  | elementValuePair
  /-- An expression, an annotation or an array of element values. -/
  | elementValue
  | elementValueArray
  /-- A class or primitive type with its dimensions. -/
  | type
  | classOrInterfaceType
  | typeArguments
  /-- A type or a wildcard. -/
  | typeArgument
  /-- A primary and the elements applied to it. -/
  | path
  | pathElement
  /-- The name behind a member operator. -/
  | namePart
  /-- An argument list in parentheses. -/
  | arguments
  | argumentList
  | indexArgs
  /-- An expression that a star may spread. -/
  | expressionListElement
  | postfixExpression
  /-- A sign or a step in front of its operand. -/
  | unaryAdd
  | unaryNot
  | cast
  | binary
  | typeTest
  | conditional
  | assignment
  /-- A call written without parentheses. -/
  | commandExpression
  | commandArgument
  | identifier
  | literal
  /-- An interpolated string. -/
  | gstring
  | gstringValue
  | gstringPath
  | creator
  | createdName
  | thisReference
  | superReference
  | parExpression
  | list
  | map
  | mapEntry
  | mapEntryLabel
  /-- The name of a primitive type, or void, used as an expression. -/
  | builtInType
  | closure
deriving DecidableEq, Repr

namespace NodeKind

/-- The display name, as messages write it, of a production. -/
def display : NodeKind → String
  | .compilationUnit => "CompilationUnit"
  | .packageDeclaration => "PackageDeclaration"
  | .importDeclaration => "ImportDeclaration"
  | .qualifiedName => "QualifiedName"
  | .qualifiedClassName => "QualifiedClassName"
  | .qualifiedClassNameList => "QualifiedClassNameList"
  | .block => "Block"
  | .blockStatements => "BlockStatements"
  | .assertStatement => "Assert"
  | .ifStatement => "If"
  | .forStatement => "For"
  | .enhancedForControl => "EnhancedForControl"
  | .classicForControl => "ClassicForControl"
  | .forInit => "ForInit"
  | .forUpdate => "ForUpdate"
  | .whileStatement => "While"
  | .tryStatement => "Try"
  | .catchClause => "CatchClause"
  | .catchType => "CatchType"
  | .finallyClause => "Finally"
  | .switchStatement => "Switch"
  | .switchGroup => "SwitchGroup"
  | .switchLabel => "SwitchLabel"
  | .synchronizedStatement => "Synchronized"
  | .returnStatement => "Return"
  | .throwStatement => "Throw"
  | .breakStatement => "Break"
  | .continueStatement => "Continue"
  | .labeledStatement => "Labeled"
  | .expressionStatement => "ExpressionStatement"
  | .localVariableDeclaration => "LocalVariableDeclaration"
  | .variableDeclarator => "VariableDeclarator"
  | .variableInitializer => "VariableInitializer"
  | .arrayInitializer => "ArrayInitializer"
  | .typeNamePairs => "TypeNamePairs"
  | .typeNamePair => "TypeNamePair"
  | .methodDeclaration => "MethodDeclaration"
  | .returnType => "ReturnType"
  | .formalParameters => "FormalParameters"
  | .formalParameter => "FormalParameter"
  | .typeDeclaration => "TypeDeclaration"
  | .modifiers => "Modifiers"
  | .modifier => "Modifier"
  | .annotationUse => "Annotation"
  | .elementValuePair => "ElementValuePair"
  | .elementValue => "ElementValue"
  | .elementValueArray => "ElementValueArray"
  | .type => "Type"
  | .classOrInterfaceType => "ClassOrInterfaceType"
  | .typeArguments => "TypeArguments"
  | .typeArgument => "TypeArgument"
  | .path => "Path"
  | .pathElement => "PathElement"
  | .namePart => "NamePart"
  | .arguments => "Arguments"
  | .argumentList => "ArgumentList"
  | .indexArgs => "IndexArgs"
  | .expressionListElement => "ExpressionListElement"
  | .postfixExpression => "Postfix"
  | .unaryAdd => "UnaryAdd"
  | .unaryNot => "UnaryNot"
  | .cast => "Cast"
  | .binary => "Binary"
  | .typeTest => "TypeTest"
  | .conditional => "Conditional"
  | .assignment => "Assignment"
  | .commandExpression => "CommandExpression"
  | .commandArgument => "CommandArgument"
  | .identifier => "Identifier"
  | .literal => "Literal"
  | .gstring => "GString"
  | .gstringValue => "GStringValue"
  | .gstringPath => "GStringPath"
  | .creator => "Creator"
  | .createdName => "CreatedName"
  | .thisReference => "This"
  | .superReference => "Super"
  | .parExpression => "ParExpression"
  | .list => "List"
  | .map => "Map"
  | .mapEntry => "MapEntry"
  | .mapEntryLabel => "MapEntryLabel"
  | .builtInType => "BuiltInType"
  | .closure => "Closure"

/-- All of them, in the order of their declaration. -/
def all : List NodeKind :=
  [.compilationUnit, .packageDeclaration, .importDeclaration, .qualifiedName, .qualifiedClassName,
   .qualifiedClassNameList, .block, .blockStatements, .assertStatement, .ifStatement,
   .forStatement, .enhancedForControl, .classicForControl, .forInit, .forUpdate, .whileStatement,
   .tryStatement, .catchClause, .catchType, .finallyClause, .switchStatement, .switchGroup,
   .switchLabel, .synchronizedStatement, .returnStatement, .throwStatement, .breakStatement,
   .continueStatement, .labeledStatement, .expressionStatement, .localVariableDeclaration,
   .variableDeclarator, .variableInitializer, .arrayInitializer, .typeNamePairs, .typeNamePair,
   .methodDeclaration, .returnType, .formalParameters, .formalParameter, .typeDeclaration,
   .modifiers, .modifier, .annotationUse, .elementValuePair, .elementValue, .elementValueArray,
   .type, .classOrInterfaceType, .typeArguments, .typeArgument, .path, .pathElement, .namePart,
   .arguments, .argumentList, .indexArgs, .expressionListElement, .postfixExpression, .unaryAdd,
   .unaryNot, .cast, .binary, .typeTest, .conditional, .assignment, .commandExpression,
   .commandArgument, .identifier, .literal, .gstring, .gstringValue, .gstringPath, .creator,
   .createdName, .thisReference, .superReference, .parExpression, .list, .map, .mapEntry,
   .mapEntryLabel, .builtInType, .closure]

/-- The one that a display name stands for. -/
def ofDisplay? (display : String) : Option NodeKind :=
  all.find? fun x => x.display == display

end NodeKind

/-- The part a child plays inside its parent. -/
inductive Role where
  | aliasName
  | annotationUse
  | argument
  | arguments
  | array
  | arrow
  | atSign
  | base
  | opening
  | body
  | catchType
  | catchClause
  | classType
  | closure
  | commandArgument
  | condition
  | control
  | declarator
  | defaultValue
  | dimension
  | dynamic
  | element
  | ellipsis
  | elseBranch
  | emptyDimension
  | closing
  | entry
  | expression
  | finallyClause
  | group
  | identifier
  | importDeclaration
  | index
  | init
  | initializer
  | keyword
  | label
  | left
  | list
  | literal
  | message
  | modifier
  | modifiers
  | name
  | namePart
  | operand
  | operator
  | packageDeclaration
  | pair
  | parameter
  | parameters
  | part
  | path
  | pathPart
  | primary
  | primitive
  | punct
  | question
  | returnType
  | right
  | spread
  | star
  | statement
  | staticMark
  | thenBranch
  | throws
  | tuple
  | type
  | typeArguments
  | update
  | value
deriving DecidableEq, Repr

namespace Role

/-- The display name, as messages write it, of a role. -/
def display : Role → String
  | .aliasName => "Alias"
  | .annotationUse => "Annotation"
  | .argument => "Argument"
  | .arguments => "Arguments"
  | .array => "Array"
  | .arrow => "Arrow"
  | .atSign => "At"
  | .base => "Base"
  | .opening => "Begin"
  | .body => "Body"
  | .catchType => "CatchType"
  | .catchClause => "Catch"
  | .classType => "Class"
  | .closure => "Closure"
  | .commandArgument => "CommandArgument"
  | .condition => "Condition"
  | .control => "Control"
  | .declarator => "Declarator"
  | .defaultValue => "Default"
  | .dimension => "Dimension"
  | .dynamic => "Dynamic"
  | .element => "Element"
  | .ellipsis => "Ellipsis"
  | .elseBranch => "Else"
  | .emptyDimension => "EmptyDimension"
  | .closing => "End"
  | .entry => "Entry"
  | .expression => "Expression"
  | .finallyClause => "Finally"
  | .group => "Group"
  | .identifier => "Identifier"
  | .importDeclaration => "Import"
  | .index => "Index"
  | .init => "Init"
  | .initializer => "Initializer"
  | .keyword => "Keyword"
  | .label => "Label"
  | .left => "Left"
  | .list => "List"
  | .literal => "Literal"
  | .message => "Message"
  | .modifier => "Modifier"
  | .modifiers => "Modifiers"
  | .name => "Name"
  | .namePart => "NamePart"
  | .operand => "Operand"
  | .operator => "Operator"
  | .packageDeclaration => "Package"
  | .pair => "Pair"
  | .parameter => "Parameter"
  | .parameters => "Parameters"
  | .part => "Part"
  | .path => "Path"
  | .pathPart => "PathPart"
  | .primary => "Primary"
  | .primitive => "Primitive"
  | .punct => "Punct"
  | .question => "Question"
  | .returnType => "ReturnType"
  | .right => "Right"
  | .spread => "Spread"
  | .star => "Star"
  | .statement => "Statement"
  | .staticMark => "Static"
  | .thenBranch => "Then"
  | .throws => "Throws"
  | .tuple => "Tuple"
  | .type => "Type"
  | .typeArguments => "TypeArguments"
  | .update => "Update"
  | .value => "Value"

/-- All of them, in the order of their declaration. -/
def all : List Role :=
  [.aliasName, .annotationUse, .argument, .arguments, .array, .arrow, .atSign, .base, .opening,
   .body, .catchType, .catchClause, .classType, .closure, .commandArgument, .condition, .control,
   .declarator, .defaultValue, .dimension, .dynamic, .element, .ellipsis, .elseBranch,
   .emptyDimension, .closing, .entry, .expression, .finallyClause, .group, .identifier,
   .importDeclaration, .index, .init, .initializer, .keyword, .label, .left, .list, .literal,
   .message, .modifier, .modifiers, .name, .namePart, .operand, .operator, .packageDeclaration,
   .pair, .parameter, .parameters, .part, .path, .pathPart, .primary, .primitive, .punct,
   .question, .returnType, .right, .spread, .star, .statement, .staticMark, .thenBranch, .throws,
   .tuple, .type, .typeArguments, .update, .value]

/-- The one that a display name stands for. -/
def ofDisplay? (display : String) : Option Role :=
  all.find? fun x => x.display == display

end Role

/-- The lexical category of a token. -/
inductive TokenKind where
  | identifier
  | keyword
  | integerLiteral
  | floatingPointLiteral
  | stringLiteral
  | booleanLiteral
  | nullLiteral
  | gstringBegin
  | gstringPart
  | gstringEnd
  | gstringPathPart
  | builtInPrimitiveType
  | operator
  | punct
deriving DecidableEq, Repr

namespace TokenKind

/-- The display name of a category. -/
def display : TokenKind → String
  | .identifier => "Identifier"
  | .keyword => "Keyword"
  | .integerLiteral => "IntegerLiteral"
  | .floatingPointLiteral => "FloatingPointLiteral"
  | .stringLiteral => "StringLiteral"
  | .booleanLiteral => "BooleanLiteral"
  | .nullLiteral => "NullLiteral"
  | .gstringBegin => "GStringBegin"
  | .gstringPart => "GStringPart"
  | .gstringEnd => "GStringEnd"
  | .gstringPathPart => "GStringPathPart"
  | .builtInPrimitiveType => "BuiltInPrimitiveType"
  | .operator => "Operator"
  | .punct => "Punct"

/-- All of them, in the order of their declaration. -/
def all : List TokenKind :=
  [.identifier, .keyword, .integerLiteral, .floatingPointLiteral, .stringLiteral, .booleanLiteral,
   .nullLiteral, .gstringBegin, .gstringPart, .gstringEnd, .gstringPathPart,
   .builtInPrimitiveType, .operator, .punct]

/-- The one that a display name stands for. -/
def ofDisplay? (display : String) : Option TokenKind :=
  all.find? fun x => x.display == display

end TokenKind

end GroovyLowering
