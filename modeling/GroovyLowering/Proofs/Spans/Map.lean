import GroovyLowering.Ast.Unit
import GroovyLowering.Modifier.Set

/-!
# Replacing the spans of a result

`mapSpans f` puts `f p` in the place of every span `p` inside a result and keeps everything else.
With a constant function the spans are erased: `eraseSpans` is how two results are compared when
only what they say counts and not where it was written.

The syntax is mutual and nests lists, so there is a function for every type and for every list
position.  The list functions are `List.map` (`mapSpansInExprs_eq` and its siblings), which is the
form later proofs work with.
-/

namespace GroovyLowering

/-! ## Types -/

mutual

/-- A type with every span replaced. -/
def TypeRef.mapSpans (f : Span → Span) : TypeRef → TypeRef
  | ⟨shape, span⟩ => ⟨shape.mapSpans f, f span⟩

/-- What a type says, with every span replaced. -/
def TypeShape.mapSpans (f : Span → Span) : TypeShape → TypeShape
  | .named name generics => .named name (mapSpansInGenerics? f generics)
  | .primitive name => .primitive name
  | .array component => .array (component.mapSpans f)
  | .void => .void
  | .dynamic => .dynamic

/-- A type argument with every span replaced. -/
def TypeArgument.mapSpans (f : Span → Span) : TypeArgument → TypeArgument
  | ⟨shape, span⟩ => ⟨shape.mapSpans f, f span⟩

/-- What a type argument says, with every span replaced. -/
def TypeArgumentShape.mapSpans (f : Span → Span) : TypeArgumentShape → TypeArgumentShape
  | .exact type => .exact (type.mapSpans f)
  | .wildcard upper lower => .wildcard (mapSpansInType? f upper) (mapSpansInType? f lower)

/-- Type arguments with every span replaced. -/
def mapSpansInGenerics (f : Span → Span) : List TypeArgument → List TypeArgument
  | [] => []
  | argument :: rest => argument.mapSpans f :: mapSpansInGenerics f rest

/-- Type arguments that may be missing, with every span replaced. -/
def mapSpansInGenerics? (f : Span → Span) : Option (List TypeArgument) → Option (List TypeArgument)
  | none => none
  | some generics => some (mapSpansInGenerics f generics)

/-- A type that may be missing, with every span replaced. -/
def mapSpansInType? (f : Span → Span) : Option TypeRef → Option TypeRef
  | none => none
  | some type => some (type.mapSpans f)

end

/-- A variable with every span replaced. -/
def Variable.mapSpans (f : Span → Span) (v : Variable) : Variable :=
  { v with type := v.type.mapSpans f }

/-! ## Expressions and statements -/

mutual

/-- An expression with every span replaced. -/
def Expr.mapSpans (f : Span → Span) : Expr → Expr
  | ⟨shape, span, parenthesized⟩ => ⟨shape.mapSpans f, f span, parenthesized⟩

/-- What an expression says, with every span replaced. -/
def ExprShape.mapSpans (f : Span → Span) : ExprShape → ExprShape
  | .constant value => .constant value
  | .name value => .name (value.mapSpans f)
  | .declaration value => .declaration (value.mapSpans f)
  | .gstring verbatim strings values =>
    .gstring verbatim (mapSpansInExprs f strings) (mapSpansInExprs f values)
  | .property access => .property (access.mapSpans f)
  | .field access => .field (access.mapSpans f)
  | .methodPointer object method => .methodPointer (object.mapSpans f) (method.mapSpans f)
  | .methodCall call => .methodCall (call.mapSpans f)
  | .newObject type arguments => .newObject (type.mapSpans f) (arguments.mapSpans f)
  | .newArray elementType sizes =>
    .newArray (elementType.mapSpans f) (mapSpansInExprs f sizes)
  | .binary left op right => .binary (left.mapSpans f) op (right.mapSpans f)
  | .range lower upper inclusive => .range (lower.mapSpans f) (upper.mapSpans f) inclusive
  | .stepAfter expr op => .stepAfter (expr.mapSpans f) op
  | .stepBefore op expr => .stepBefore op (expr.mapSpans f)
  | .plus expr => .plus (expr.mapSpans f)
  | .minus expr => .minus (expr.mapSpans f)
  | .not expr => .not (expr.mapSpans f)
  | .bitNot expr => .bitNot (expr.mapSpans f)
  | .truth expr => .truth (expr.mapSpans f)
  | .cast type expr coerce => .cast (type.mapSpans f) (expr.mapSpans f) coerce
  | .classValue type => .classValue (type.mapSpans f)
  | .ternary condition yes no =>
    .ternary (condition.mapSpans f) (yes.mapSpans f) (no.mapSpans f)
  | .elvis value no => .elvis (value.mapSpans f) (no.mapSpans f)
  | .closure parameters code => .closure (parameters.mapSpans f) (code.mapSpans f)
  | .list elements wrapped => .list (mapSpansInExprs f elements) wrapped
  | .map entries => .map (mapSpansInEntries f entries)
  | .spread expr => .spread (expr.mapSpans f)
  | .spreadMap expr => .spreadMap (expr.mapSpans f)
  | .argumentList arguments => .argumentList (arguments.mapSpans f)
  | .clauses exprs => .clauses (mapSpansInExprs f exprs)
  | .annotationUse value => .annotationUse (value.mapSpans f)
  | .empty => .empty

/-- A declaration with every span replaced. -/
def Declaration.mapSpans (f : Span → Span) : Declaration → Declaration
  | ⟨declared, nameSpan, initializer, slot, annotations⟩ =>
    ⟨declared.mapSpans f, f nameSpan, initializer.mapSpans f, slot,
      mapSpansInAnnotations f annotations⟩

/-- A member of an object with every span replaced. -/
def Access.mapSpans (f : Span → Span) : Access → Access
  | ⟨object, member, safe, spreadSafe, generics⟩ =>
    ⟨object.mapSpans f, member.mapSpans f, safe, spreadSafe,
      generics.map (List.map (TypeArgument.mapSpans f))⟩

/-- A method call with every span replaced. -/
def Call.mapSpans (f : Span → Span) : Call → Call
  | ⟨object, method, arguments, implicitThis, safe, spreadSafe, generics⟩ =>
    ⟨object.mapSpans f, method.mapSpans f, arguments.mapSpans f, implicitThis, safe, spreadSafe,
      generics.map (List.map (TypeArgument.mapSpans f))⟩

/-- Arguments with every span replaced. -/
def Arguments.mapSpans (f : Span → Span) : Arguments → Arguments
  | .positional args span => .positional (mapSpansInExprs f args) (f span)
  | .named entries span => .named (mapSpansInEntries f entries) (f span)

/-- A map entry with every span replaced. -/
def MapEntry.mapSpans (f : Span → Span) : MapEntry → MapEntry
  | ⟨key, value, span⟩ => ⟨key.mapSpans f, value.mapSpans f, f span⟩

/-- The parameters of a closure with every span replaced. -/
def ClosureParameters.mapSpans (f : Span → Span) : ClosureParameters → ClosureParameters
  | .implicit => .implicit
  | .explicit parameters => .explicit (mapSpansInParameters f parameters)

/-- An annotation with every span replaced. -/
def Annotation.mapSpans (f : Span → Span) : Annotation → Annotation
  | ⟨className, members, span⟩ => ⟨className, mapSpansInMembers f members, f span⟩

/-- A parameter with every span replaced. -/
def Parameter.mapSpans (f : Span → Span) : Parameter → Parameter
  | ⟨name, type, modifiers, annotations, defaultValue, span⟩ =>
    ⟨name, type.mapSpans f, modifiers, mapSpansInAnnotations f annotations,
      mapSpansInExpr? f defaultValue, f span⟩

/-- A statement with every span replaced. -/
def Stmt.mapSpans (f : Span → Span) : Stmt → Stmt
  | ⟨shape, span, labels⟩ => ⟨shape.mapSpans f, f span, labels⟩

/-- What a statement says, with every span replaced. -/
def StmtShape.mapSpans (f : Span → Span) : StmtShape → StmtShape
  | .block statements => .block (mapSpansInStmts f statements)
  | .expression expr => .expression (expr.mapSpans f)
  | .assertion condition message =>
    .assertion (condition.mapSpans f) (mapSpansInExpr? f message)
  | .conditional condition yes no =>
    .conditional (condition.mapSpans f) (yes.mapSpans f) (no.mapSpans f)
  | .forLoop binder collection body =>
    .forLoop (mapSpansInParameter? f binder) (collection.mapSpans f) (body.mapSpans f)
  | .whileLoop condition body => .whileLoop (condition.mapSpans f) (body.mapSpans f)
  | .tryCatch body catches atEnd =>
    .tryCatch (body.mapSpans f) (mapSpansInCatches f catches) (atEnd.mapSpans f)
  | .switch subject cases otherwise =>
    .switch (subject.mapSpans f) (mapSpansInCases f cases) (otherwise.mapSpans f)
  | .synchronized lock body => .synchronized (lock.mapSpans f) (body.mapSpans f)
  | .returnValue value => .returnValue (value.mapSpans f)
  | .throwValue value => .throwValue (value.mapSpans f)
  | .breakLoop label => .breakLoop label
  | .continueLoop label => .continueLoop label
  | .empty => .empty

/-- A catch clause with every span replaced. -/
def CatchClause.mapSpans (f : Span → Span) : CatchClause → CatchClause
  | ⟨parameter, body, span⟩ => ⟨parameter.mapSpans f, body.mapSpans f, f span⟩

/-- A case of a switch with every span replaced. -/
def SwitchCase.mapSpans (f : Span → Span) : SwitchCase → SwitchCase
  | ⟨value, body, span⟩ => ⟨value.mapSpans f, body.mapSpans f, f span⟩

/-- Expressions with every span replaced. -/
def mapSpansInExprs (f : Span → Span) : List Expr → List Expr
  | [] => []
  | e :: rest => e.mapSpans f :: mapSpansInExprs f rest

/-- Map entries with every span replaced. -/
def mapSpansInEntries (f : Span → Span) : List MapEntry → List MapEntry
  | [] => []
  | e :: rest => e.mapSpans f :: mapSpansInEntries f rest

/-- The members of an annotation with every span replaced. -/
def mapSpansInMembers (f : Span → Span) : List (String × Expr) → List (String × Expr)
  | [] => []
  | (name, value) :: rest => (name, value.mapSpans f) :: mapSpansInMembers f rest

/-- Annotations with every span replaced. -/
def mapSpansInAnnotations (f : Span → Span) : List Annotation → List Annotation
  | [] => []
  | a :: rest => a.mapSpans f :: mapSpansInAnnotations f rest

/-- Parameters with every span replaced. -/
def mapSpansInParameters (f : Span → Span) : List Parameter → List Parameter
  | [] => []
  | p :: rest => p.mapSpans f :: mapSpansInParameters f rest

/-- Statements with every span replaced. -/
def mapSpansInStmts (f : Span → Span) : List Stmt → List Stmt
  | [] => []
  | s :: rest => s.mapSpans f :: mapSpansInStmts f rest

/-- Catch clauses with every span replaced. -/
def mapSpansInCatches (f : Span → Span) : List CatchClause → List CatchClause
  | [] => []
  | c :: rest => c.mapSpans f :: mapSpansInCatches f rest

/-- Cases of a switch with every span replaced. -/
def mapSpansInCases (f : Span → Span) : List SwitchCase → List SwitchCase
  | [] => []
  | c :: rest => c.mapSpans f :: mapSpansInCases f rest

/-- An expression that may be missing, with every span replaced. -/
def mapSpansInExpr? (f : Span → Span) : Option Expr → Option Expr
  | none => none
  | some e => some (e.mapSpans f)

/-- A parameter that may be missing, with every span replaced. -/
def mapSpansInParameter? (f : Span → Span) : Option Parameter → Option Parameter
  | none => none
  | some p => some (p.mapSpans f)

end

/-! ## Declarations and whole files -/

/-- A modifier with every span replaced. -/
def Modifier.mapSpans (f : Span → Span) (m : Modifier) : Modifier :=
  ⟨m.kind, m.attached.map (.mapSpans f), f m.span⟩

/-- Modifiers with every span replaced. -/
def ModifierSet.mapSpans (f : Span → Span) (m : ModifierSet) : ModifierSet :=
  ⟨m.items.map (Modifier.mapSpans f)⟩

/-- A method with every span replaced. -/
def MethodDecl.mapSpans (f : Span → Span) (m : MethodDecl) : MethodDecl :=
  { m with
    returnType := m.returnType.mapSpans f
    parameters := m.parameters.map (Parameter.mapSpans f)
    exceptions := m.exceptions.map (TypeRef.mapSpans f)
    body := m.body.map (Stmt.mapSpans f)
    annotations := m.annotations.map (.mapSpans f)
    span := f m.span }

/-- An import with every span replaced. -/
def ImportDecl.mapSpans (f : Span → Span) (i : ImportDecl) : ImportDecl :=
  { i with annotations := i.annotations.map (.mapSpans f), span := f i.span }

/-- A package with every span replaced. -/
def PackageDecl.mapSpans (f : Span → Span) (p : PackageDecl) : PackageDecl :=
  { p with annotations := p.annotations.map (.mapSpans f), span := f p.span }

/-- A file with every span replaced. -/
def CompilationUnit.mapSpans (f : Span → Span) (u : CompilationUnit) : CompilationUnit where
  package := u.package.map (PackageDecl.mapSpans f)
  imports := u.imports.map (ImportDecl.mapSpans f)
  statements := u.statements.map (Stmt.mapSpans f)
  methods := u.methods.map (MethodDecl.mapSpans f)
  span := f u.span

/-! ## Erasing -/

/-- An expression without its spans. -/
def Expr.eraseSpans (e : Expr) : Expr := e.mapSpans fun _ => .fileStart

/-- A file without its spans. -/
def CompilationUnit.eraseSpans (u : CompilationUnit) : CompilationUnit :=
  u.mapSpans fun _ => .fileStart

/-! ## Lists and options are mapped -/

theorem mapSpansInGenerics_eq (f : Span → Span) (ts : List TypeArgument) :
    mapSpansInGenerics f ts = ts.map (TypeArgument.mapSpans f) := by
  induction ts with
  | nil => rfl
  | cons t rest ih => rw [mapSpansInGenerics, ih, List.map_cons]

theorem mapSpansInGenerics?_eq (f : Span → Span) (ts : Option (List TypeArgument)) :
    mapSpansInGenerics? f ts = ts.map (List.map (TypeArgument.mapSpans f)) := by
  cases ts with
  | none => rfl
  | some ts => rw [mapSpansInGenerics?, mapSpansInGenerics_eq, Option.map_some]

theorem mapSpansInType?_eq (f : Span → Span) (t : Option TypeRef) :
    mapSpansInType? f t = t.map (TypeRef.mapSpans f) := by
  cases t <;> rfl

theorem mapSpansInExpr?_eq (f : Span → Span) (e : Option Expr) :
    mapSpansInExpr? f e = e.map (Expr.mapSpans f) := by
  cases e <;> rfl

theorem mapSpansInParameter?_eq (f : Span → Span) (p : Option Parameter) :
    mapSpansInParameter? f p = p.map (Parameter.mapSpans f) := by
  cases p <;> rfl

theorem mapSpansInExprs_eq (f : Span → Span) (es : List Expr) :
    mapSpansInExprs f es = es.map (Expr.mapSpans f) := by
  induction es with
  | nil => rfl
  | cons e rest ih => rw [mapSpansInExprs, ih, List.map_cons]

theorem mapSpansInEntries_eq (f : Span → Span) (es : List MapEntry) :
    mapSpansInEntries f es = es.map (MapEntry.mapSpans f) := by
  induction es with
  | nil => rfl
  | cons e rest ih => rw [mapSpansInEntries, ih, List.map_cons]

theorem mapSpansInMembers_eq (f : Span → Span) (ms : List (String × Expr)) :
    mapSpansInMembers f ms = ms.map (Prod.map id (Expr.mapSpans f)) := by
  induction ms with
  | nil => rfl
  | cons m rest ih =>
    obtain ⟨name, value⟩ := m
    rw [mapSpansInMembers, ih, List.map_cons]
    rfl

theorem mapSpansInAnnotations_eq (f : Span → Span) (as : List Annotation) :
    mapSpansInAnnotations f as = as.map (.mapSpans f) := by
  induction as with
  | nil => rfl
  | cons a rest ih => rw [mapSpansInAnnotations, ih, List.map_cons]

theorem mapSpansInParameters_eq (f : Span → Span) (ps : List Parameter) :
    mapSpansInParameters f ps = ps.map (Parameter.mapSpans f) := by
  induction ps with
  | nil => rfl
  | cons p rest ih => rw [mapSpansInParameters, ih, List.map_cons]

theorem mapSpansInStmts_eq (f : Span → Span) (ss : List Stmt) :
    mapSpansInStmts f ss = ss.map (Stmt.mapSpans f) := by
  induction ss with
  | nil => rfl
  | cons s rest ih => rw [mapSpansInStmts, ih, List.map_cons]

theorem mapSpansInCatches_eq (f : Span → Span) (cs : List CatchClause) :
    mapSpansInCatches f cs = cs.map (CatchClause.mapSpans f) := by
  induction cs with
  | nil => rfl
  | cons c rest ih => rw [mapSpansInCatches, ih, List.map_cons]

theorem mapSpansInCases_eq (f : Span → Span) (cs : List SwitchCase) :
    mapSpansInCases f cs = cs.map (SwitchCase.mapSpans f) := by
  induction cs with
  | nil => rfl
  | cons c rest ih => rw [mapSpansInCases, ih, List.map_cons]

attribute [simp] TypeRef.mapSpans TypeShape.mapSpans TypeArgument.mapSpans
  TypeArgumentShape.mapSpans Variable.mapSpans Expr.mapSpans ExprShape.mapSpans
  Declaration.mapSpans Access.mapSpans Call.mapSpans Arguments.mapSpans MapEntry.mapSpans
  ClosureParameters.mapSpans Annotation.mapSpans Parameter.mapSpans Stmt.mapSpans StmtShape.mapSpans
  CatchClause.mapSpans SwitchCase.mapSpans Modifier.mapSpans ModifierSet.mapSpans
  mapSpansInGenerics_eq mapSpansInExprs_eq mapSpansInEntries_eq mapSpansInMembers_eq
  mapSpansInAnnotations_eq mapSpansInParameters_eq mapSpansInStmts_eq mapSpansInCatches_eq
  mapSpansInCases_eq mapSpansInGenerics?_eq mapSpansInType?_eq mapSpansInExpr?_eq
  mapSpansInParameter?_eq

/-! ## Fields of a result without a constructor in front -/

theorem Expr.mapSpans_eq_iff {f : Span → Span} {a b : Expr} :
    a.mapSpans f = b.mapSpans f ↔
      a.shape.mapSpans f = b.shape.mapSpans f ∧ f a.span = f b.span ∧
        a.parenthesized = b.parenthesized := by
  cases a
  cases b
  simp

theorem TypeRef.mapSpans_eq_iff {f : Span → Span} {a b : TypeRef} :
    a.mapSpans f = b.mapSpans f ↔
      a.shape.mapSpans f = b.shape.mapSpans f ∧ f a.span = f b.span := by
  cases a
  cases b
  simp

theorem Stmt.mapSpans_eq_iff {f : Span → Span} {a b : Stmt} :
    a.mapSpans f = b.mapSpans f ↔
      a.shape.mapSpans f = b.shape.mapSpans f ∧ f a.span = f b.span ∧ a.labels = b.labels := by
  cases a
  cases b
  simp

end GroovyLowering
