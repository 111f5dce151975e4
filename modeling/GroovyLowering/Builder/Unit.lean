import GroovyLowering.Builder.Expression
import GroovyLowering.Builder.Statement
import GroovyLowering.Lower.Unit

/-!
# Building files

`Walk.level` ties the lowering of constructs to `Building.nested`, which takes every statement and
every expression one level deeper.  A builder cannot enter more levels than its limit, so that many
are enough.

`Builder.session` lowers files one after another with one builder.  Each file finds the state that
the one in front of it has left.
-/

namespace GroovyLowering

/-- The lowerings inside a construct, with a number of levels left. -/
def Walk.level : Nat → Walk
  | 0 => { expr := Building.tooDeep, stmt := Building.tooDeep }
  | left + 1 =>
    { expr := fun n => Building.nested n ((level left).expression n)
      stmt := fun n => Building.nested n ((level left).statement n) }

namespace Walk

open Building

/-- Build a package. -/
def package (w : Walk) (n : Node) : Building PackageDecl := do
  let name := (← node n .name).dottedName
  return ⟨name ++ ".", ← w.annotations n, n.span⟩

/-- Build an import. -/
def importDecl (w : Walk) (n : Node) : Building ImportDecl := do
  let parts := (← node n .name).parts
  let annotations ← w.annotations n
  let (kind, className, member, localName) ←
    look fun s => s.importOf n parts ((n.token? .aliasName).map Token.text)
  return { kind, className, member, localName, annotations, span := n.span }

/-- Build a statement at the top level. -/
def topLevel (w : Walk) (options : LowerOptions) (n : Node) : Building TopLevel :=
  if n.kind = .methodDeclaration then
    if options.allowScriptMethods then do return .method (← w.method n)
    else fail (.invalid .scriptMethod n.span)
  else do return .statements (← w.blockStatement n)

/-- Build the package of a file, if it has one. -/
def package? (w : Walk) (n : Node) : Building (Option PackageDecl) :=
  match n.node? .packageDeclaration with
  | some child => do return some (← w.package child)
  | none => return none

/-- Build the tree of a file. -/
def unit (w : Walk) (options : LowerOptions) (n : Node) : Building CompilationUnit :=
  if n.kind = .compilationUnit then do
    let package ← w.package? n
    let imports ← (n.nodes .importDeclaration).mapM w.importDecl
    let items ← (n.nodes .statement).mapM (w.topLevel options)
    return { package, imports
             statements := items.flatMap TopLevel.toStatements ++ blankReturn options n
             methods := items.filterMap TopLevel.method?
             span := n.span }
  else refuse n (.notAUnit n.kind)

end Walk

namespace Builder

/-- A builder that has not lowered anything. -/
def fresh (options : LowerOptions) : Builder := { options }

/-- Lower the tree of a file. -/
def unit (n : Node) : Building CompilationUnit := fun b =>
  (Walk.level b.options.maxDepth).unit b.options n b

/-- Lower trees of files one after another. -/
def session (b : Builder) : List Node → List (Lowered CompilationUnit)
  | [] => []
  | n :: rest =>
    let (result, after) := unit n b
    result :: session after rest

end Builder

end GroovyLowering
