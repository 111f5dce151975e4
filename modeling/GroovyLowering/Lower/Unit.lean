import GroovyLowering.Lower.Level
import GroovyLowering.Options

/-!
# Lowering a file

A file is lowered in order: its package, its imports, and then its statements and methods.  A
script without statements returns `null`, if the options say so.

A parser that found an error has a diagnostic for it.  The first one is relayed before the tree is
looked at.  Notices about ambiguous input are not errors.

A failure is returned, and its record goes to the sink.
-/

namespace GroovyLowering

/-! ## Packages and imports -/

namespace Scope

/-- Lower a package. -/
def package (s : Scope) (n : Node) : Lowered PackageDecl := do
  let name := (← s.node n .name).dottedName
  return ⟨name ++ ".", ← s.annotations n, n.span⟩

/-- What an import brings in, given the parts of its name and the alias. -/
def importOf (s : Scope) (n : Node) (parts : List String) (aliasName : Option String) :
    Lowered (ImportKind × String × Option String × Option String) :=
  let qualified := ".".intercalate parts
  match n.has .staticMark, n.has .star, parts.getLast? with
  | true, true, _ => .ok (.staticStar, qualified, none, none)
  | true, false, some member =>
    .ok (.static, ".".intercalate parts.dropLast, some member, some (aliasName.getD member))
  | true, false, none => s.refuse n .noImportedMember
  | false, true, _ => .ok (.star, qualified ++ ".", none, none)
  | false, false, some last => .ok (.regular, qualified, none, some (aliasName.getD last))
  | false, false, none => s.refuse n .noImportedClass

/-- Lower an import. -/
def importDecl (s : Scope) (n : Node) : Lowered ImportDecl := do
  let parts := (← s.node n .name).parts
  let annotations ← s.annotations n
  let (kind, className, member, localName) ←
    s.importOf n parts ((n.token? .aliasName).map Token.text)
  return { kind, className, member, localName, annotations, span := n.span }

end Scope

/-! ## Statements and methods -/

/-- What a statement at the top level gives. -/
inductive TopLevel where
  /-- Statements of the script. -/
  | statements (list : List Stmt)
  /-- A method. -/
  | method (m : MethodDecl)

namespace TopLevel

/-- The statements of the script. -/
def toStatements : TopLevel → List Stmt
  | .statements list => list
  | .method _ => []

/-- The method. -/
def method? : TopLevel → Option MethodDecl
  | .statements _ => none
  | .method m => some m

end TopLevel

/-- Lower a statement at the top level. -/
def Scope.topLevel (s : Scope) (options : LowerOptions) (n : Node) : Lowered TopLevel :=
  if n.kind = .methodDeclaration then
    if options.allowScriptMethods then do return .method (← s.method n)
    else .error (.invalid .scriptMethod n.span)
  else do return .statements (← s.blockStatement n)

/-- What is added to a script: a `return null`, if it has no statements and the options say so. -/
def blankReturn (options : LowerOptions) (n : Node) : List Stmt :=
  if !n.has .statement && options.blankScriptReturn then
    [{ shape := .returnValue (.null n.span), span := n.span }]
  else []

/-- Lower the package of a file, if it has one. -/
def Scope.package? (s : Scope) (n : Node) : Lowered (Option PackageDecl) :=
  match n.node? .packageDeclaration with
  | some child => do return some (← s.package child)
  | none => .ok none

/-- Lower the tree of a file. -/
def lowerUnit (options : LowerOptions) (n : Node) : Lowered CompilationUnit :=
  let s := Scope.outermost options.maxDepth
  if n.kind = .compilationUnit then do
    let package ← s.package? n
    let imports ← (n.nodes .importDeclaration).mapM s.importDecl
    let items ← (n.nodes .statement).mapM (s.topLevel options)
    return { package, imports
             statements := items.flatMap TopLevel.toStatements ++ blankReturn options n
             methods := items.filterMap TopLevel.method?
             span := n.span }
  else s.refuse n (.notAUnit n.kind)

/-! ## Parser diagnostics -/

/-- What a parser reports. -/
inductive ParserDiagnostic where
  /-- An error in the source. -/
  | syntaxError (message : String) (line column : Nat)
  /-- Input that can be read in two ways, between two tokens. -/
  | ambiguity (start stop : Nat)
  /-- A second attempt at input, between two tokens. -/
  | fullContextAttempt (start stop : Nat)
  /-- Input that is read by what surrounds it, between two tokens. -/
  | contextSensitivity (start stop : Nat)
deriving DecidableEq, Repr

/-- The error of a diagnostic, if it is not a notice. -/
def ParserDiagnostic.error? : ParserDiagnostic → Option CompileError
  | .syntaxError message line column => some (.relayed message (.point line (column + 1)))
  | .ambiguity .. | .fullContextAttempt .. | .contextSensitivity .. => none

/-- What a parser hands over. -/
structure ParsedFile where
  /-- The tree. -/
  root : Node
  /-- What the parser reported, in order. -/
  diagnostics : List ParserDiagnostic := []

/-- Lower what a parser hands over. -/
def lower (options : LowerOptions) (file : ParsedFile) : Lowered CompilationUnit :=
  match file.diagnostics.findSome? ParserDiagnostic.error? with
  | some e => .error e
  | none => lowerUnit options file.root

/-- Lower what a parser hands over, and add the record of a failure to a sink. -/
def ErrorSink.lower (sink : ErrorSink) (options : LowerOptions) (file : ParsedFile) :
    Lowered CompilationUnit × ErrorSink :=
  match GroovyLowering.lower options file with
  | .ok unit => (.ok unit, sink)
  | .error e => (.error e, sink.add e.record)

end GroovyLowering
