import GroovyLowering.Tree.Construct.Statement

/-!
# Declarations and whole files, written by hand
-/

namespace GroovyLowering.Production

open Node

/-! ## Files -/

/-- A whole file of statements. -/
def unit (statements : List Node) : Node :=
  (bare .compilationUnit).withNodes .statement statements

/-- The form `package a.b`. -/
def packageDeclaration (parts : List String) : Node :=
  ((bare .packageDeclaration).keyword "package").withNode .name (qualifiedName parts)

/-- An import, static or not, of everything below a name or of the name, with an alias or
without. -/
def importDeclaration (parts : List String) (isStatic star : Bool) (aliasName : Option String) :
    Node :=
  let n := (bare .importDeclaration).keyword "import"
  let n := if isStatic then n.write .staticMark .keyword "static" else n
  let n := n.withNode .name (qualifiedName parts)
  let n := if star then (n.punct ".").write .star .operator "*" else n
  match aliasName with
  | some name => (n.keyword "as").write .aliasName .identifier name
  | none => n

/-! ## Modifiers and annotations -/

/-- A modifier keyword. -/
def modifier (word : String) : Node := (bare .modifier).keyword word

/-- An annotation among modifiers. -/
def annotationModifier (use : Node) : Node := (bare .modifier).withNode .annotationUse use

/-- A list of modifiers. -/
def modifiers (items : List Node) : Node := (bare .modifiers).withNodes .modifier items

/-- Modifiers in front of a declaration, left out when there are none. -/
def withModifiers (n : Node) (items : List Node) : Node :=
  if items.isEmpty then n else n.withNode .modifiers (modifiers items)

/-- The form `@Name(k = v)`; without pairs there are no parentheses. -/
def annotationUse (parts : List String) (pairs : List (String × Node)) : Node :=
  let n := ((bare .annotationUse).punct "@").withNode .name (qualifiedClassName parts)
  let pair := fun (p : String × Node) =>
    (((bare .elementValuePair).named p.1).punct "=").withNode .value p.2
  if pairs.isEmpty then n else ((n.punct "(").withList .pair (pairs.map pair)).punct ")"

/-- The form `@Name(value)`. -/
def annotationOf (parts : List String) (value : Node) : Node :=
  let n := ((bare .annotationUse).punct "@").withNode .name (qualifiedClassName parts)
  ((n.punct "(").withNode .value value).punct ")"

/-- An expression as an element value. -/
def valueExpression (expr : Node) : Node := (bare .elementValue).withNode .expression expr

/-- An annotation as an element value. -/
def valueAnnotationUse (use : Node) : Node := (bare .elementValue).withNode .annotationUse use

/-- An array of element values. -/
def valueArray (values : List Node) : Node :=
  (bare .elementValue).withNode .array
    ((((bare .elementValueArray).punct "\x7b").withList .element values).punct "\x7d")

/-! ## Variables -/

/-- Modifiers, a type and declarators. -/
def localVariable (items : List Node) (type : Option Node) (declarators : List Node) : Node :=
  ((withModifiers (bare .localVariableDeclaration) items).withNode? .type type).withList
    .declarator declarators

/-- The form `name = initializer`. -/
def declarator (name : String) (initializer : Option Node) : Node :=
  let n := (bare .variableDeclarator).named name
  match initializer with
  | some initializer => (n.punct "=").withNode .initializer initializer
  | none => n

/-- An expression as an initializer. -/
def initializerExpression (expr : Node) : Node :=
  (bare .variableInitializer).withNode .expression expr

/-- An array of initializers. -/
def initializerArray (elements : List Node) : Node :=
  (bare .variableInitializer).withNode .array
    ((((bare .arrayInitializer).punct "\x7b").withList .element elements).punct "\x7d")

/-- The form `def (A a, b) = initializer`. -/
def tupleDeclaration (items pairs : List Node) (initializer : Node) : Node :=
  let tuple := (((bare .typeNamePairs).punct "(").withList .pair pairs).punct ")"
  (((withModifiers (bare .localVariableDeclaration) items).withNode .tuple tuple).punct
    "=").withNode .initializer initializer

/-- A name of a tuple, with its type if it has one. -/
def typeNamePair (type : Option Node) (name : String) : Node :=
  ((bare .typeNamePair).withNode? .type type).named name

/-! ## Methods -/

/-- A parameter with all it may have. -/
def parameterOf (items : List Node) (type : Option Node) (varargs : Bool) (name : String)
    (fallback : Option Node) : Node :=
  let n := (withModifiers (bare .formalParameter) items).withNode? .type type
  let n := (if varargs then n.write .ellipsis .punct "..." else n).named name
  match fallback with
  | some fallback => (n.punct "=").withNode .defaultValue fallback
  | none => n

/-- A parameter with a name and perhaps a type. -/
def parameter (type : Option Node) (name : String) : Node := parameterOf [] type false name none

/-- A written return type. -/
def returnType (type : Node) : Node := (bare .returnType).withNode .type type

/-- The form `void` as a return type. -/
def voidReturn : Node := (bare .returnType).keyword "void"

/-- The category of a method name: a string literal if it is in quotes. -/
def methodNameKind (name : String) : TokenKind :=
  match name.toList with
  | '"' :: _ | '\'' :: _ => .stringLiteral
  | _ => .identifier

/-- A method with all it may have. -/
def methodOf (items : List Node) (returns : Option Node) (name : String) (params : List Node)
    (throws : List (List String)) (body : Option Node) : Node :=
  let n := (withModifiers (bare .methodDeclaration) items).withNode? .returnType returns
  let n := n.write .name (methodNameKind name) name
  let n := n.withNode .parameters
    ((((bare .formalParameters).punct "(").withList .parameter params).punct ")")
  let n :=
    if throws.isEmpty then n
    else (n.keyword "throws").withNode .throws
      ((bare .qualifiedClassNameList).withList .element (throws.map qualifiedClassName))
  n.withNode? .body body

/-- A method without modifiers. -/
def method (name : String) (returns : Option Node) (params : List Node) (body : Node) : Node :=
  methodOf [] returns name params [] (some body)

/-- A class, interface, enum or trait without members. -/
def typeDeclaration (word name : String) : Node :=
  ((((bare .typeDeclaration).keyword word).named name).punct "\x7b").punct "\x7d"

end GroovyLowering.Production
