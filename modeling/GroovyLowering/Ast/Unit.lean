import GroovyLowering.Ast.Expr

/-!
# Compilation units

A file is a package, imports, the statements of its script and the methods among them.
-/

namespace GroovyLowering

/-- A method. -/
structure MethodDecl where
  /-- Its name. -/
  name : String
  /-- Its access flags. -/
  modifiers : UInt32
  /-- The type of its value. -/
  returnType : TypeRef
  /-- Its parameters. -/
  parameters : List Parameter
  /-- The exceptions it says it throws. -/
  exceptions : List TypeRef
  /-- What it does; an abstract or native method has no body. -/
  body : Option Stmt
  /-- Its annotations. -/
  annotations : List Annotation
  /-- Whether it is public without the keyword. -/
  syntheticPublic : Bool
  /-- Where it is written. -/
  span : Span

/-- What an import brings in. -/
inductive ImportKind where
  /-- A class. -/
  | regular
  /-- All classes of a package. -/
  | star
  /-- A static member of a class. -/
  | static
  /-- All static members of a class. -/
  | staticStar
deriving DecidableEq, Repr

namespace ImportKind

/-- The display name. -/
def display : ImportKind → String
  | .regular => "Regular"
  | .star => "Star"
  | .static => "Static"
  | .staticStar => "StaticStar"

/-- Whether static members are brought in. -/
def isStatic : ImportKind → Bool
  | .static | .staticStar => true
  | .regular | .star => false

/-- Whether everything below a name is brought in. -/
def isStar : ImportKind → Bool
  | .star | .staticStar => true
  | .regular | .static => false

end ImportKind

/-- An import. -/
structure ImportDecl where
  /-- What it brings in. -/
  kind : ImportKind
  /-- The class; for a package its name and a dot. -/
  className : String
  /-- The static member. -/
  member : Option String
  /-- The name it gets here. -/
  localName : Option String
  /-- Its annotations. -/
  annotations : List Annotation
  /-- Where it is written. -/
  span : Span

/-- The package of a file. -/
structure PackageDecl where
  /-- Its name and a dot. -/
  name : String
  /-- Its annotations. -/
  annotations : List Annotation
  /-- Where it is written. -/
  span : Span

/-- A file. -/
structure CompilationUnit where
  /-- Its package. -/
  package : Option PackageDecl
  /-- Its imports. -/
  imports : List ImportDecl
  /-- The statements of its script. -/
  statements : List Stmt
  /-- Its methods. -/
  methods : List MethodDecl
  /-- The span from its first to its last token. -/
  span : Span

end GroovyLowering
