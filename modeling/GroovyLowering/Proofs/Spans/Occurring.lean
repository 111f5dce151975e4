import GroovyLowering.Proofs.Spans.Map

/-!
# The spans inside a result

`spans` lists every span inside a result: those of expressions and statements, of types and their
arguments, of parameters, arguments and annotations, and of all else that has a place.

A replacement of spans leaves a result as it is exactly when it leaves each of them as it is
(`CompilationUnit.mapSpans_eq_self_iff`).  So a statement about all spans of a result can be proved
as an equation, and the functions that commute with `mapSpans` need no lemma about their spans.
-/

namespace GroovyLowering

/-! ## Types -/

mutual

/-- The spans of a type. -/
def TypeRef.spans : TypeRef → List Span
  | ⟨shape, span⟩ => shape.spans ++ [span]

/-- The spans of what a type says. -/
def TypeShape.spans : TypeShape → List Span
  | .named _ generics => spansInGenerics? generics
  | .primitive _ => []
  | .array component => component.spans
  | .void => []
  | .dynamic => []

/-- The spans of a type argument. -/
def TypeArgument.spans : TypeArgument → List Span
  | ⟨shape, span⟩ => shape.spans ++ [span]

/-- The spans of what a type argument says. -/
def TypeArgumentShape.spans : TypeArgumentShape → List Span
  | .exact type => type.spans
  | .wildcard upper lower => spansInType? upper ++ spansInType? lower

/-- The spans of type arguments. -/
def spansInGenerics : List TypeArgument → List Span
  | [] => []
  | argument :: rest => argument.spans ++ spansInGenerics rest

/-- The spans of type arguments that may be missing. -/
def spansInGenerics? : Option (List TypeArgument) → List Span
  | none => []
  | some generics => spansInGenerics generics

/-- The spans of a type that may be missing. -/
def spansInType? : Option TypeRef → List Span
  | none => []
  | some type => type.spans

end

/-! ## Expressions and statements -/

mutual

/-- The spans of an expression. -/
def Expr.spans : Expr → List Span
  | ⟨shape, span, _⟩ => shape.spans ++ [span]

/-- The spans of what an expression says. -/
def ExprShape.spans : ExprShape → List Span
  | .constant _ => []
  | .name value => value.type.spans
  | .declaration value => value.spans
  | .gstring _ strings values => spansInExprs strings ++ spansInExprs values
  | .property access => access.spans
  | .field access => access.spans
  | .methodPointer object method => object.spans ++ method.spans
  | .methodCall call => call.spans
  | .newObject type arguments => type.spans ++ arguments.spans
  | .newArray elementType sizes => elementType.spans ++ spansInExprs sizes
  | .binary left _ right => left.spans ++ right.spans
  | .range lower upper _ => lower.spans ++ upper.spans
  | .stepAfter expr _ => expr.spans
  | .stepBefore _ expr => expr.spans
  | .plus expr => expr.spans
  | .minus expr => expr.spans
  | .not expr => expr.spans
  | .bitNot expr => expr.spans
  | .truth expr => expr.spans
  | .cast type expr _ => type.spans ++ expr.spans
  | .classValue type => type.spans
  | .ternary condition yes no => condition.spans ++ yes.spans ++ no.spans
  | .elvis value no => value.spans ++ no.spans
  | .closure parameters code => parameters.spans ++ code.spans
  | .list elements _ => spansInExprs elements
  | .map entries => spansInEntries entries
  | .spread expr => expr.spans
  | .spreadMap expr => expr.spans
  | .argumentList arguments => arguments.spans
  | .clauses exprs => spansInExprs exprs
  | .annotationUse value => value.spans
  | .empty => []

/-- The spans of a declaration. -/
def Declaration.spans : Declaration → List Span
  | ⟨declared, nameSpan, initializer, _, annotations⟩ =>
    declared.type.spans ++ [nameSpan] ++ initializer.spans ++ spansInAnnotations annotations

/-- The spans of a member of an object. -/
def Access.spans : Access → List Span
  | ⟨object, member, _, _, generics⟩ =>
    object.spans ++ member.spans ++ (generics.getD []).flatMap TypeArgument.spans

/-- The spans of a method call. -/
def Call.spans : Call → List Span
  | ⟨object, method, arguments, _, _, _, generics⟩ =>
    object.spans ++ method.spans ++ arguments.spans ++
      (generics.getD []).flatMap TypeArgument.spans

/-- The spans of arguments. -/
def Arguments.spans : Arguments → List Span
  | .positional args span => spansInExprs args ++ [span]
  | .named entries span => spansInEntries entries ++ [span]

/-- The spans of a map entry. -/
def MapEntry.spans : MapEntry → List Span
  | ⟨key, value, span⟩ => key.spans ++ value.spans ++ [span]

/-- The spans of the parameters of a closure. -/
def ClosureParameters.spans : ClosureParameters → List Span
  | .implicit => []
  | .explicit parameters => spansInParameters parameters

/-- The spans of an annotation. -/
def Annotation.spans : Annotation → List Span
  | ⟨_, members, span⟩ => spansInMembers members ++ [span]

/-- The spans of a parameter. -/
def Parameter.spans : Parameter → List Span
  | ⟨_, type, _, annotations, defaultValue, span⟩ =>
    type.spans ++ spansInAnnotations annotations ++ spansInExpr? defaultValue ++ [span]

/-- The spans of a statement. -/
def Stmt.spans : Stmt → List Span
  | ⟨shape, span, _⟩ => shape.spans ++ [span]

/-- The spans of what a statement says. -/
def StmtShape.spans : StmtShape → List Span
  | .block statements => spansInStmts statements
  | .expression expr => expr.spans
  | .assertion condition message => condition.spans ++ spansInExpr? message
  | .conditional condition yes no => condition.spans ++ yes.spans ++ no.spans
  | .forLoop binder collection body =>
    spansInParameter? binder ++ collection.spans ++ body.spans
  | .whileLoop condition body => condition.spans ++ body.spans
  | .tryCatch body catches atEnd => body.spans ++ spansInCatches catches ++ atEnd.spans
  | .switch subject cases otherwise => subject.spans ++ spansInCases cases ++ otherwise.spans
  | .synchronized lock body => lock.spans ++ body.spans
  | .returnValue value => value.spans
  | .throwValue value => value.spans
  | .breakLoop _ => []
  | .continueLoop _ => []
  | .empty => []

/-- The spans of a catch clause. -/
def CatchClause.spans : CatchClause → List Span
  | ⟨parameter, body, span⟩ => parameter.spans ++ body.spans ++ [span]

/-- The spans of a case of a switch. -/
def SwitchCase.spans : SwitchCase → List Span
  | ⟨value, body, span⟩ => value.spans ++ body.spans ++ [span]

/-- The spans of expressions. -/
def spansInExprs : List Expr → List Span
  | [] => []
  | e :: rest => e.spans ++ spansInExprs rest

/-- The spans of map entries. -/
def spansInEntries : List MapEntry → List Span
  | [] => []
  | e :: rest => e.spans ++ spansInEntries rest

/-- The spans of the members of an annotation. -/
def spansInMembers : List (String × Expr) → List Span
  | [] => []
  | (_, value) :: rest => value.spans ++ spansInMembers rest

/-- The spans of annotations. -/
def spansInAnnotations : List Annotation → List Span
  | [] => []
  | a :: rest => a.spans ++ spansInAnnotations rest

/-- The spans of parameters. -/
def spansInParameters : List Parameter → List Span
  | [] => []
  | p :: rest => p.spans ++ spansInParameters rest

/-- The spans of statements. -/
def spansInStmts : List Stmt → List Span
  | [] => []
  | s :: rest => s.spans ++ spansInStmts rest

/-- The spans of catch clauses. -/
def spansInCatches : List CatchClause → List Span
  | [] => []
  | c :: rest => c.spans ++ spansInCatches rest

/-- The spans of the cases of a switch. -/
def spansInCases : List SwitchCase → List Span
  | [] => []
  | c :: rest => c.spans ++ spansInCases rest

/-- The spans of an expression that may be missing. -/
def spansInExpr? : Option Expr → List Span
  | none => []
  | some e => e.spans

/-- The spans of a parameter that may be missing. -/
def spansInParameter? : Option Parameter → List Span
  | none => []
  | some p => p.spans

end

/-! ## Whole files -/

/-- The spans of a method. -/
def MethodDecl.spans (m : MethodDecl) : List Span :=
  m.returnType.spans ++ m.parameters.flatMap Parameter.spans ++
    m.exceptions.flatMap TypeRef.spans ++ m.body.toList.flatMap Stmt.spans ++
    m.annotations.flatMap Annotation.spans ++ [m.span]

/-- The spans of an import. -/
def ImportDecl.spans (i : ImportDecl) : List Span :=
  i.annotations.flatMap Annotation.spans ++ [i.span]

/-- The spans of a package. -/
def PackageDecl.spans (p : PackageDecl) : List Span :=
  p.annotations.flatMap Annotation.spans ++ [p.span]

/-- The spans of a file. -/
def CompilationUnit.spans (u : CompilationUnit) : List Span :=
  u.package.toList.flatMap PackageDecl.spans ++ u.imports.flatMap ImportDecl.spans ++
    u.statements.flatMap Stmt.spans ++ u.methods.flatMap MethodDecl.spans ++ [u.span]

/-! ## Replacements that leave a result as it is -/

/-- All spans of a list stay as they are. -/
def AllStay (f : Span → Span) (ps : List Span) : Prop := ∀ p ∈ ps, f p = p

section AllStay

variable {f : Span → Span}

@[simp] theorem allStay_nil : AllStay f [] := List.forall_mem_nil _

@[simp] theorem allStay_singleton {p : Span} : AllStay f [p] ↔ f p = p :=
  List.forall_mem_singleton

@[simp] theorem allStay_append {ps qs : List Span} :
    AllStay f (ps ++ qs) ↔ AllStay f ps ∧ AllStay f qs :=
  List.forall_mem_append

/-- A list of pieces stays as it is when each piece does. -/
theorem map_eq_self_iff {α : Type} {g : α → α} {spans : α → List Span}
    (hg : ∀ a, g a = a ↔ AllStay f (spans a)) (xs : List α) :
    xs.map g = xs ↔ AllStay f (xs.flatMap spans) := by
  induction xs with
  | nil => simp
  | cons x xs ih => rw [List.map_cons, List.cons.injEq, ih, hg, List.flatMap_cons, allStay_append]

theorem option_map_eq_self_iff {α : Type} {g : α → α} {spans : α → List Span}
    (hg : ∀ a, g a = a ↔ AllStay f (spans a)) (o : Option α) :
    o.map g = o ↔ AllStay f (o.toList.flatMap spans) := by
  cases o with
  | none => simp
  | some a => rw [Option.map_some, Option.some.injEq, hg]; simp

end AllStay

mutual

theorem TypeRef.mapSpans_eq_self_iff (f : Span → Span) :
    ∀ t : TypeRef, t.mapSpans f = t ↔ AllStay f t.spans
  | ⟨shape, span⟩ => by
    simp [TypeRef.mapSpans, TypeRef.spans, TypeShape.mapSpans_eq_self_iff f shape]

theorem TypeShape.mapSpans_eq_self_iff (f : Span → Span) :
    ∀ t : TypeShape, t.mapSpans f = t ↔ AllStay f t.spans
  | .named name none => by
    simp [TypeShape.mapSpans, TypeShape.spans, mapSpansInGenerics?, spansInGenerics?]
  | .named name (some generics) => by
    simp [TypeShape.mapSpans, TypeShape.spans, mapSpansInGenerics?, spansInGenerics?,
      mapSpansInGenerics_eq_self_iff f generics, -mapSpansInGenerics_eq,
      -mapSpansInGenerics?_eq]
  | .primitive name => by simp [TypeShape.mapSpans, TypeShape.spans]
  | .array component => by
    simp [TypeShape.mapSpans, TypeShape.spans, TypeRef.mapSpans_eq_self_iff f component]
  | .void => by simp [TypeShape.mapSpans, TypeShape.spans]
  | .dynamic => by simp [TypeShape.mapSpans, TypeShape.spans]

theorem TypeArgument.mapSpans_eq_self_iff (f : Span → Span) :
    ∀ t : TypeArgument, t.mapSpans f = t ↔ AllStay f t.spans
  | ⟨shape, span⟩ => by
    simp [TypeArgument.mapSpans, TypeArgument.spans,
      TypeArgumentShape.mapSpans_eq_self_iff f shape]

theorem TypeArgumentShape.mapSpans_eq_self_iff (f : Span → Span) :
    ∀ t : TypeArgumentShape, t.mapSpans f = t ↔ AllStay f t.spans
  | .exact type => by
    simp [TypeArgumentShape.mapSpans, TypeArgumentShape.spans,
      TypeRef.mapSpans_eq_self_iff f type]
  | .wildcard upper lower => by
    rw [TypeArgumentShape.mapSpans, TypeArgumentShape.spans, TypeArgumentShape.wildcard.injEq,
      allStay_append, mapSpansInType?_eq_self_iff f upper, mapSpansInType?_eq_self_iff f lower]

theorem mapSpansInGenerics_eq_self_iff (f : Span → Span) :
    ∀ ts : List TypeArgument, mapSpansInGenerics f ts = ts ↔ AllStay f (spansInGenerics ts)
  | [] => by simp [spansInGenerics]
  | t :: rest => by
    rw [mapSpansInGenerics, spansInGenerics, List.cons.injEq, allStay_append,
      TypeArgument.mapSpans_eq_self_iff f t, mapSpansInGenerics_eq_self_iff f rest]

theorem mapSpansInType?_eq_self_iff (f : Span → Span) :
    ∀ t : Option TypeRef, mapSpansInType? f t = t ↔ AllStay f (spansInType? t)
  | none => by simp [mapSpansInType?, spansInType?]
  | some t => by
    rw [mapSpansInType?, spansInType?, Option.some.injEq, TypeRef.mapSpans_eq_self_iff f t]

end

theorem generics_eq_self_iff {f : Span → Span} {generics : Option (List TypeArgument)} :
    generics.map (List.map (TypeArgument.mapSpans f)) = generics ↔
      AllStay f ((generics.getD []).flatMap TypeArgument.spans) := by
  cases generics with
  | none => simp
  | some generics =>
    rw [Option.map_some, Option.some.injEq, Option.getD_some,
      map_eq_self_iff (TypeArgument.mapSpans_eq_self_iff f)]

mutual

theorem Expr.mapSpans_eq_self_iff (f : Span → Span) :
    ∀ e : Expr, e.mapSpans f = e ↔ AllStay f e.spans
  | ⟨shape, span, parenthesized⟩ => by
    simp only [Expr.mapSpans, Expr.spans, Expr.mk.injEq, allStay_append, allStay_singleton,
      and_true, ExprShape.mapSpans_eq_self_iff f shape]

theorem ExprShape.mapSpans_eq_self_iff (f : Span → Span) :
    ∀ e : ExprShape, e.mapSpans f = e ↔ AllStay f e.spans
  | .constant value => by
    simp only [ExprShape.mapSpans, ExprShape.spans, allStay_nil]
  | .name ⟨name, type, modifiers⟩ => by
    simp only [ExprShape.mapSpans, ExprShape.spans, ExprShape.name.injEq, Variable.mapSpans,
      Variable.mk.injEq, true_and, and_true, TypeRef.mapSpans_eq_self_iff f type]
  | .declaration value => by
    simp only [ExprShape.mapSpans, ExprShape.spans, ExprShape.declaration.injEq,
      Declaration.mapSpans_eq_self_iff f value]
  | .gstring verbatim strings values => by
    simp only [ExprShape.mapSpans, ExprShape.spans, ExprShape.gstring.injEq, allStay_append,
      true_and, mapSpansInExprs_eq_self_iff f strings, mapSpansInExprs_eq_self_iff f values]
  | .property access => by
    simp only [ExprShape.mapSpans, ExprShape.spans, ExprShape.property.injEq,
      Access.mapSpans_eq_self_iff f access]
  | .field access => by
    simp only [ExprShape.mapSpans, ExprShape.spans, ExprShape.field.injEq,
      Access.mapSpans_eq_self_iff f access]
  | .methodPointer object method => by
    simp only [ExprShape.mapSpans, ExprShape.spans, ExprShape.methodPointer.injEq, allStay_append,
      Expr.mapSpans_eq_self_iff f object, Expr.mapSpans_eq_self_iff f method]
  | .methodCall call => by
    simp only [ExprShape.mapSpans, ExprShape.spans, ExprShape.methodCall.injEq,
      Call.mapSpans_eq_self_iff f call]
  | .newObject type arguments => by
    simp only [ExprShape.mapSpans, ExprShape.spans, ExprShape.newObject.injEq, allStay_append,
      TypeRef.mapSpans_eq_self_iff f type, Arguments.mapSpans_eq_self_iff f arguments]
  | .newArray elementType sizes => by
    simp only [ExprShape.mapSpans, ExprShape.spans, ExprShape.newArray.injEq, allStay_append,
      TypeRef.mapSpans_eq_self_iff f elementType, mapSpansInExprs_eq_self_iff f sizes]
  | .binary left op right => by
    simp only [ExprShape.mapSpans, ExprShape.spans, ExprShape.binary.injEq, allStay_append,
      true_and, Expr.mapSpans_eq_self_iff f left, Expr.mapSpans_eq_self_iff f right]
  | .range lower upper inclusive => by
    simp only [ExprShape.mapSpans, ExprShape.spans, ExprShape.range.injEq, allStay_append, and_true,
      Expr.mapSpans_eq_self_iff f lower, Expr.mapSpans_eq_self_iff f upper]
  | .stepAfter expr op => by
    simp only [ExprShape.mapSpans, ExprShape.spans, ExprShape.stepAfter.injEq, and_true,
      Expr.mapSpans_eq_self_iff f expr]
  | .stepBefore op expr => by
    simp only [ExprShape.mapSpans, ExprShape.spans, ExprShape.stepBefore.injEq, true_and,
      Expr.mapSpans_eq_self_iff f expr]
  | .plus expr => by
    simp only [ExprShape.mapSpans, ExprShape.spans, ExprShape.plus.injEq,
      Expr.mapSpans_eq_self_iff f expr]
  | .minus expr => by
    simp only [ExprShape.mapSpans, ExprShape.spans, ExprShape.minus.injEq,
      Expr.mapSpans_eq_self_iff f expr]
  | .not expr => by
    simp only [ExprShape.mapSpans, ExprShape.spans, ExprShape.not.injEq,
      Expr.mapSpans_eq_self_iff f expr]
  | .bitNot expr => by
    simp only [ExprShape.mapSpans, ExprShape.spans, ExprShape.bitNot.injEq,
      Expr.mapSpans_eq_self_iff f expr]
  | .truth expr => by
    simp only [ExprShape.mapSpans, ExprShape.spans, ExprShape.truth.injEq,
      Expr.mapSpans_eq_self_iff f expr]
  | .cast type expr coerce => by
    simp only [ExprShape.mapSpans, ExprShape.spans, ExprShape.cast.injEq, allStay_append, and_true,
      TypeRef.mapSpans_eq_self_iff f type, Expr.mapSpans_eq_self_iff f expr]
  | .classValue type => by
    simp only [ExprShape.mapSpans, ExprShape.spans, ExprShape.classValue.injEq,
      TypeRef.mapSpans_eq_self_iff f type]
  | .ternary condition yes no => by
    simp only [ExprShape.mapSpans, ExprShape.spans, ExprShape.ternary.injEq, allStay_append,
      and_assoc, Expr.mapSpans_eq_self_iff f condition, Expr.mapSpans_eq_self_iff f yes,
      Expr.mapSpans_eq_self_iff f no]
  | .elvis value no => by
    simp only [ExprShape.mapSpans, ExprShape.spans, ExprShape.elvis.injEq, allStay_append,
      Expr.mapSpans_eq_self_iff f value, Expr.mapSpans_eq_self_iff f no]
  | .closure parameters code => by
    simp only [ExprShape.mapSpans, ExprShape.spans, ExprShape.closure.injEq, allStay_append,
      ClosureParameters.mapSpans_eq_self_iff f parameters, Stmt.mapSpans_eq_self_iff f code]
  | .list elements wrapped => by
    simp only [ExprShape.mapSpans, ExprShape.spans, ExprShape.list.injEq, and_true,
      mapSpansInExprs_eq_self_iff f elements]
  | .map entries => by
    simp only [ExprShape.mapSpans, ExprShape.spans, ExprShape.map.injEq,
      mapSpansInEntries_eq_self_iff f entries]
  | .spread expr => by
    simp only [ExprShape.mapSpans, ExprShape.spans, ExprShape.spread.injEq,
      Expr.mapSpans_eq_self_iff f expr]
  | .spreadMap expr => by
    simp only [ExprShape.mapSpans, ExprShape.spans, ExprShape.spreadMap.injEq,
      Expr.mapSpans_eq_self_iff f expr]
  | .argumentList arguments => by
    simp only [ExprShape.mapSpans, ExprShape.spans, ExprShape.argumentList.injEq,
      Arguments.mapSpans_eq_self_iff f arguments]
  | .clauses exprs => by
    simp only [ExprShape.mapSpans, ExprShape.spans, ExprShape.clauses.injEq,
      mapSpansInExprs_eq_self_iff f exprs]
  | .annotationUse value => by
    simp only [ExprShape.mapSpans, ExprShape.spans, ExprShape.annotationUse.injEq,
      Annotation.mapSpans_eq_self_iff f value]
  | .empty => by
    simp only [ExprShape.mapSpans, ExprShape.spans, allStay_nil]

theorem Declaration.mapSpans_eq_self_iff (f : Span → Span) :
    ∀ d : Declaration, d.mapSpans f = d ↔ AllStay f d.spans
  | ⟨⟨name, type, modifiers⟩, nameSpan, initializer, slot, annotations⟩ => by
    simp only [Declaration.mapSpans, Declaration.spans, Declaration.mk.injEq, Variable.mapSpans,
      Variable.mk.injEq, allStay_append, allStay_singleton, and_assoc, true_and, and_true,
      TypeRef.mapSpans_eq_self_iff f type, Expr.mapSpans_eq_self_iff f initializer,
      mapSpansInAnnotations_eq_self_iff f annotations]

theorem Access.mapSpans_eq_self_iff (f : Span → Span) :
    ∀ a : Access, a.mapSpans f = a ↔ AllStay f a.spans
  | ⟨object, member, safe, spreadSafe, generics⟩ => by
    simp only [Access.mapSpans, Access.spans, Access.mk.injEq, allStay_append, and_assoc, true_and,
      Expr.mapSpans_eq_self_iff f object, Expr.mapSpans_eq_self_iff f member, generics_eq_self_iff]

theorem Call.mapSpans_eq_self_iff (f : Span → Span) :
    ∀ c : Call, c.mapSpans f = c ↔ AllStay f c.spans
  | ⟨object, method, arguments, implicitThis, safe, spreadSafe, generics⟩ => by
    simp only [Call.mapSpans, Call.spans, Call.mk.injEq, allStay_append, and_assoc, true_and,
      Expr.mapSpans_eq_self_iff f object, Expr.mapSpans_eq_self_iff f method,
      Arguments.mapSpans_eq_self_iff f arguments, generics_eq_self_iff]

theorem Arguments.mapSpans_eq_self_iff (f : Span → Span) :
    ∀ a : Arguments, a.mapSpans f = a ↔ AllStay f a.spans
  | .positional args span => by
    simp only [Arguments.mapSpans, Arguments.spans, Arguments.positional.injEq, allStay_append,
      allStay_singleton, mapSpansInExprs_eq_self_iff f args]
  | .named entries span => by
    simp only [Arguments.mapSpans, Arguments.spans, Arguments.named.injEq, allStay_append,
      allStay_singleton, mapSpansInEntries_eq_self_iff f entries]

theorem MapEntry.mapSpans_eq_self_iff (f : Span → Span) :
    ∀ m : MapEntry, m.mapSpans f = m ↔ AllStay f m.spans
  | ⟨key, value, span⟩ => by
    simp only [MapEntry.mapSpans, MapEntry.spans, MapEntry.mk.injEq, allStay_append,
      allStay_singleton, and_assoc, Expr.mapSpans_eq_self_iff f key,
      Expr.mapSpans_eq_self_iff f value]

theorem ClosureParameters.mapSpans_eq_self_iff (f : Span → Span) :
    ∀ p : ClosureParameters, p.mapSpans f = p ↔ AllStay f p.spans
  | .implicit => by simp only [ClosureParameters.mapSpans, ClosureParameters.spans, allStay_nil]
  | .explicit parameters => by
    simp only [ClosureParameters.mapSpans, ClosureParameters.spans,
      ClosureParameters.explicit.injEq, mapSpansInParameters_eq_self_iff f parameters]

theorem Annotation.mapSpans_eq_self_iff (f : Span → Span) :
    ∀ a : Annotation, a.mapSpans f = a ↔ AllStay f a.spans
  | ⟨className, members, span⟩ => by
    simp only [allStay_append, allStay_singleton, true_and, Annotation.mapSpans,
      Annotation.spans, Annotation.mk.injEq, mapSpansInMembers_eq_self_iff f members]

theorem Parameter.mapSpans_eq_self_iff (f : Span → Span) :
    ∀ p : Parameter, p.mapSpans f = p ↔ AllStay f p.spans
  | ⟨name, type, modifiers, annotations, defaultValue, span⟩ => by
    simp only [Parameter.mapSpans, Parameter.spans, Parameter.mk.injEq, allStay_append,
      allStay_singleton, and_assoc, true_and, TypeRef.mapSpans_eq_self_iff f type,
      mapSpansInAnnotations_eq_self_iff f annotations, mapSpansInExpr?_eq_self_iff f defaultValue]

theorem Stmt.mapSpans_eq_self_iff (f : Span → Span) :
    ∀ s : Stmt, s.mapSpans f = s ↔ AllStay f s.spans
  | ⟨shape, span, labels⟩ => by
    simp only [Stmt.mapSpans, Stmt.spans, Stmt.mk.injEq, allStay_append, allStay_singleton,
      and_true, StmtShape.mapSpans_eq_self_iff f shape]

theorem StmtShape.mapSpans_eq_self_iff (f : Span → Span) :
    ∀ s : StmtShape, s.mapSpans f = s ↔ AllStay f s.spans
  | .block statements => by
    simp only [StmtShape.mapSpans, StmtShape.spans, StmtShape.block.injEq,
      mapSpansInStmts_eq_self_iff f statements]
  | .expression expr => by
    simp only [StmtShape.mapSpans, StmtShape.spans, StmtShape.expression.injEq,
      Expr.mapSpans_eq_self_iff f expr]
  | .assertion condition message => by
    simp only [StmtShape.mapSpans, StmtShape.spans, StmtShape.assertion.injEq, allStay_append,
      Expr.mapSpans_eq_self_iff f condition, mapSpansInExpr?_eq_self_iff f message]
  | .conditional condition yes no => by
    simp only [StmtShape.mapSpans, StmtShape.spans, StmtShape.conditional.injEq, allStay_append,
      and_assoc, Expr.mapSpans_eq_self_iff f condition, Stmt.mapSpans_eq_self_iff f yes,
      Stmt.mapSpans_eq_self_iff f no]
  | .forLoop binder collection body => by
    simp only [StmtShape.mapSpans, StmtShape.spans, StmtShape.forLoop.injEq, allStay_append,
      and_assoc, mapSpansInParameter?_eq_self_iff f binder, Expr.mapSpans_eq_self_iff f collection,
      Stmt.mapSpans_eq_self_iff f body]
  | .whileLoop condition body => by
    simp only [StmtShape.mapSpans, StmtShape.spans, StmtShape.whileLoop.injEq, allStay_append,
      Expr.mapSpans_eq_self_iff f condition, Stmt.mapSpans_eq_self_iff f body]
  | .tryCatch body catches atEnd => by
    simp only [StmtShape.mapSpans, StmtShape.spans, StmtShape.tryCatch.injEq, allStay_append,
      and_assoc, Stmt.mapSpans_eq_self_iff f body, mapSpansInCatches_eq_self_iff f catches,
      Stmt.mapSpans_eq_self_iff f atEnd]
  | .switch subject cases otherwise => by
    simp only [StmtShape.mapSpans, StmtShape.spans, StmtShape.switch.injEq, allStay_append,
      and_assoc, Expr.mapSpans_eq_self_iff f subject, mapSpansInCases_eq_self_iff f cases,
      Stmt.mapSpans_eq_self_iff f otherwise]
  | .synchronized lock body => by
    simp only [StmtShape.mapSpans, StmtShape.spans, StmtShape.synchronized.injEq, allStay_append,
      Expr.mapSpans_eq_self_iff f lock, Stmt.mapSpans_eq_self_iff f body]
  | .returnValue value => by
    simp only [StmtShape.mapSpans, StmtShape.spans, StmtShape.returnValue.injEq,
      Expr.mapSpans_eq_self_iff f value]
  | .throwValue value => by
    simp only [StmtShape.mapSpans, StmtShape.spans, StmtShape.throwValue.injEq,
      Expr.mapSpans_eq_self_iff f value]
  | .breakLoop label => by
    simp only [StmtShape.mapSpans, StmtShape.spans, allStay_nil]
  | .continueLoop label => by
    simp only [StmtShape.mapSpans, StmtShape.spans, allStay_nil]
  | .empty => by
    simp only [StmtShape.mapSpans, StmtShape.spans, allStay_nil]

theorem CatchClause.mapSpans_eq_self_iff (f : Span → Span) :
    ∀ c : CatchClause, c.mapSpans f = c ↔ AllStay f c.spans
  | ⟨parameter, body, span⟩ => by
    simp only [CatchClause.mapSpans, CatchClause.spans, CatchClause.mk.injEq, allStay_append,
      allStay_singleton, and_assoc, Parameter.mapSpans_eq_self_iff f parameter,
      Stmt.mapSpans_eq_self_iff f body]

theorem SwitchCase.mapSpans_eq_self_iff (f : Span → Span) :
    ∀ c : SwitchCase, c.mapSpans f = c ↔ AllStay f c.spans
  | ⟨value, body, span⟩ => by
    simp only [SwitchCase.mapSpans, SwitchCase.spans, SwitchCase.mk.injEq, allStay_append,
      allStay_singleton, and_assoc, Expr.mapSpans_eq_self_iff f value,
      Stmt.mapSpans_eq_self_iff f body]

theorem mapSpansInExprs_eq_self_iff (f : Span → Span) :
    ∀ es : List Expr, mapSpansInExprs f es = es ↔ AllStay f (spansInExprs es)
  | [] => by simp only [mapSpansInExprs, spansInExprs, allStay_nil]
  | e :: rest => by
    rw [mapSpansInExprs, spansInExprs, List.cons.injEq, allStay_append,
      Expr.mapSpans_eq_self_iff f e, mapSpansInExprs_eq_self_iff f rest]

theorem mapSpansInEntries_eq_self_iff (f : Span → Span) :
    ∀ es : List MapEntry, mapSpansInEntries f es = es ↔ AllStay f (spansInEntries es)
  | [] => by simp only [mapSpansInEntries, spansInEntries, allStay_nil]
  | e :: rest => by
    rw [mapSpansInEntries, spansInEntries, List.cons.injEq, allStay_append,
      MapEntry.mapSpans_eq_self_iff f e, mapSpansInEntries_eq_self_iff f rest]

theorem mapSpansInAnnotations_eq_self_iff (f : Span → Span) :
    ∀ as : List Annotation, mapSpansInAnnotations f as = as ↔ AllStay f (spansInAnnotations as)
  | [] => by simp only [mapSpansInAnnotations, spansInAnnotations, allStay_nil]
  | a :: rest => by
    rw [mapSpansInAnnotations, spansInAnnotations, List.cons.injEq, allStay_append,
      Annotation.mapSpans_eq_self_iff f a, mapSpansInAnnotations_eq_self_iff f rest]

theorem mapSpansInParameters_eq_self_iff (f : Span → Span) :
    ∀ ps : List Parameter, mapSpansInParameters f ps = ps ↔ AllStay f (spansInParameters ps)
  | [] => by simp only [mapSpansInParameters, spansInParameters, allStay_nil]
  | p :: rest => by
    rw [mapSpansInParameters, spansInParameters, List.cons.injEq, allStay_append,
      Parameter.mapSpans_eq_self_iff f p, mapSpansInParameters_eq_self_iff f rest]

theorem mapSpansInStmts_eq_self_iff (f : Span → Span) :
    ∀ ss : List Stmt, mapSpansInStmts f ss = ss ↔ AllStay f (spansInStmts ss)
  | [] => by simp only [mapSpansInStmts, spansInStmts, allStay_nil]
  | s :: rest => by
    rw [mapSpansInStmts, spansInStmts, List.cons.injEq, allStay_append,
      Stmt.mapSpans_eq_self_iff f s, mapSpansInStmts_eq_self_iff f rest]

theorem mapSpansInCatches_eq_self_iff (f : Span → Span) :
    ∀ cs : List CatchClause, mapSpansInCatches f cs = cs ↔ AllStay f (spansInCatches cs)
  | [] => by simp only [mapSpansInCatches, spansInCatches, allStay_nil]
  | c :: rest => by
    rw [mapSpansInCatches, spansInCatches, List.cons.injEq, allStay_append,
      CatchClause.mapSpans_eq_self_iff f c, mapSpansInCatches_eq_self_iff f rest]

theorem mapSpansInCases_eq_self_iff (f : Span → Span) :
    ∀ cs : List SwitchCase, mapSpansInCases f cs = cs ↔ AllStay f (spansInCases cs)
  | [] => by simp only [mapSpansInCases, spansInCases, allStay_nil]
  | c :: rest => by
    rw [mapSpansInCases, spansInCases, List.cons.injEq, allStay_append,
      SwitchCase.mapSpans_eq_self_iff f c, mapSpansInCases_eq_self_iff f rest]

theorem mapSpansInMembers_eq_self_iff (f : Span → Span) :
    ∀ ms : List (String × Expr), mapSpansInMembers f ms = ms ↔ AllStay f (spansInMembers ms)
  | [] => by simp only [mapSpansInMembers, spansInMembers, allStay_nil]
  | (name, value) :: rest => by
    rw [mapSpansInMembers, spansInMembers, List.cons.injEq, Prod.mk.injEq, eq_self, true_and,
      allStay_append, Expr.mapSpans_eq_self_iff f value, mapSpansInMembers_eq_self_iff f rest]

theorem mapSpansInExpr?_eq_self_iff (f : Span → Span) :
    ∀ e : Option Expr, mapSpansInExpr? f e = e ↔ AllStay f (spansInExpr? e)
  | none => by simp only [mapSpansInExpr?, spansInExpr?, allStay_nil]
  | some e => by
    rw [mapSpansInExpr?, spansInExpr?, Option.some.injEq, Expr.mapSpans_eq_self_iff f e]

theorem mapSpansInParameter?_eq_self_iff (f : Span → Span) :
    ∀ p : Option Parameter, mapSpansInParameter? f p = p ↔ AllStay f (spansInParameter? p)
  | none => by simp only [mapSpansInParameter?, spansInParameter?, allStay_nil]
  | some p => by
    rw [mapSpansInParameter?, spansInParameter?, Option.some.injEq,
      Parameter.mapSpans_eq_self_iff f p]

end

theorem MethodDecl.mapSpans_eq_self_iff (f : Span → Span) (m : MethodDecl) :
    m.mapSpans f = m ↔ AllStay f m.spans := by
  obtain ⟨name, modifiers, returnType, parameters, exceptions, body, annotations,
    syntheticPublic, span⟩ := m
  simp only [MethodDecl.mapSpans, MethodDecl.spans, MethodDecl.mk.injEq, allStay_append,
    allStay_singleton, and_assoc, true_and, TypeRef.mapSpans_eq_self_iff f returnType,
    map_eq_self_iff (Parameter.mapSpans_eq_self_iff f),
    map_eq_self_iff (TypeRef.mapSpans_eq_self_iff f),
    option_map_eq_self_iff (Stmt.mapSpans_eq_self_iff f),
    map_eq_self_iff fun a => Annotation.mapSpans_eq_self_iff f a]

theorem ImportDecl.mapSpans_eq_self_iff (f : Span → Span) (i : ImportDecl) :
    i.mapSpans f = i ↔ AllStay f i.spans := by
  obtain ⟨kind, className, member, localName, annotations, span⟩ := i
  simp only [ImportDecl.mapSpans, ImportDecl.spans, ImportDecl.mk.injEq, allStay_append,
    allStay_singleton, true_and, map_eq_self_iff fun a => Annotation.mapSpans_eq_self_iff f a]

theorem PackageDecl.mapSpans_eq_self_iff (f : Span → Span) (p : PackageDecl) :
    p.mapSpans f = p ↔ AllStay f p.spans := by
  obtain ⟨name, annotations, span⟩ := p
  simp only [PackageDecl.mapSpans, PackageDecl.spans, PackageDecl.mk.injEq, allStay_append,
    allStay_singleton, true_and, map_eq_self_iff fun a => Annotation.mapSpans_eq_self_iff f a]

/-- A replacement leaves a file as it is when it leaves each of its spans as it is. -/
theorem CompilationUnit.mapSpans_eq_self_iff (f : Span → Span) (u : CompilationUnit) :
    u.mapSpans f = u ↔ AllStay f u.spans := by
  obtain ⟨package, imports, statements, methods, span⟩ := u
  simp only [CompilationUnit.mapSpans, CompilationUnit.spans, CompilationUnit.mk.injEq,
    allStay_append, allStay_singleton, and_assoc,
    option_map_eq_self_iff (PackageDecl.mapSpans_eq_self_iff f),
    map_eq_self_iff (ImportDecl.mapSpans_eq_self_iff f),
    map_eq_self_iff (Stmt.mapSpans_eq_self_iff f),
    map_eq_self_iff (MethodDecl.mapSpans_eq_self_iff f)]

theorem CompilationUnit.mapSpans_id (u : CompilationUnit) : u.mapSpans id = u :=
  (mapSpans_eq_self_iff id u).2 fun _ _ => rfl

end GroovyLowering
