import GroovyLowering.Ast.Text
import GroovyLowering.Proofs.Spans.Map

/-!
# The written form does not depend on spans

`Expr.text` and `Stmt.text` read what a result says and never where it was written, so they are the
same before and after `mapSpans`.  The names that are taken from an expression and the text of an
interpolated string are such texts.

The proofs follow the mutual recursion of the texts, one theorem per type.
-/

namespace GroovyLowering

/-! ## Types -/

mutual

theorem TypeRef.text_mapSpans (f : Span → Span) : ∀ t : TypeRef, (t.mapSpans f).text = t.text
  | ⟨shape, _⟩ => by
    simp only [TypeRef.mapSpans, TypeRef.text]
    exact TypeShape.text_mapSpans f shape

theorem TypeShape.text_mapSpans (f : Span → Span) :
    ∀ t : TypeShape, (t.mapSpans f).text = t.text
  | .named _ none => rfl
  | .named _ (some generics) => by
    simp only [TypeShape.mapSpans, mapSpansInGenerics?, TypeShape.text,
      typeArgumentTexts_mapSpans f generics]
  | .primitive _ => rfl
  | .array component => by
    simp only [TypeShape.mapSpans, TypeShape.text, TypeRef.text_mapSpans f component]
  | .void => rfl
  | .dynamic => rfl

theorem TypeArgument.text_mapSpans (f : Span → Span) :
    ∀ t : TypeArgument, (t.mapSpans f).text = t.text
  | ⟨shape, _⟩ => by
    simp only [TypeArgument.mapSpans, TypeArgument.text]
    exact TypeArgumentShape.text_mapSpans f shape

theorem TypeArgumentShape.text_mapSpans (f : Span → Span) :
    ∀ t : TypeArgumentShape, (t.mapSpans f).text = t.text
  | .exact type => by
    simp only [TypeArgumentShape.mapSpans, TypeArgumentShape.text, TypeRef.text_mapSpans f type]
  | .wildcard none none => rfl
  | .wildcard none (some lower) => by
    simp only [TypeArgumentShape.mapSpans, mapSpansInType?, TypeArgumentShape.text,
      TypeRef.text_mapSpans f lower]
  | .wildcard (some upper) _ => by
    simp only [TypeArgumentShape.mapSpans, mapSpansInType?, TypeArgumentShape.text,
      TypeRef.text_mapSpans f upper]

theorem typeArgumentTexts_mapSpans (f : Span → Span) :
    ∀ ts : List TypeArgument, typeArgumentTexts (mapSpansInGenerics f ts) = typeArgumentTexts ts
  | [] => rfl
  | t :: rest => by
    simp only [mapSpansInGenerics, typeArgumentTexts, TypeArgument.text_mapSpans f t,
      typeArgumentTexts_mapSpans f rest]

end

/-- The written form of type arguments does not depend on spans. -/
theorem genericsText_mapSpans (f : Span → Span) (ts : List TypeArgument) :
    genericsText (ts.map (TypeArgument.mapSpans f)) = genericsText ts := by
  rw [genericsText, genericsText, ← mapSpansInGenerics_eq, typeArgumentTexts_mapSpans]

theorem TypeShape.isDynamic_mapSpans (f : Span → Span) (t : TypeShape) :
    (t.mapSpans f).isDynamic = t.isDynamic := by
  cases t with
  | named => rfl
  | primitive => rfl
  | array => rfl
  | void => rfl
  | dynamic => rfl

/-- The type in front of a parameter does not depend on spans. -/
theorem typePart_mapSpans (f : Span → Span) (t : TypeRef) :
    typePart (t.mapSpans f) = typePart t := by
  cases t with
  | mk shape span =>
    simp only [typePart, TypeRef.mapSpans, TypeShape.isDynamic_mapSpans, TypeRef.text,
      TypeShape.text_mapSpans]

theorem Parameter.text_mapSpans (f : Span → Span) (p : Parameter) :
    (p.mapSpans f).text = p.text := by
  cases p
  simp only [Parameter.mapSpans, Parameter.text, typePart_mapSpans]

/-! ## Expressions and statements -/

theorem Expr.isNothing_mapSpans (f : Span → Span) (e : Expr) :
    (e.mapSpans f).isNothing = e.isNothing := by
  obtain ⟨shape, span, parenthesized⟩ := e
  cases shape <;> rfl

theorem Expr.isNull_mapSpans (f : Span → Span) (e : Expr) : (e.mapSpans f).isNull = e.isNull := by
  obtain ⟨shape, span, parenthesized⟩ := e
  cases shape <;> rfl

theorem Expr.isSpreadKey_mapSpans (f : Span → Span) (e : Expr) :
    (e.mapSpans f).isSpreadKey = e.isSpreadKey := by
  obtain ⟨shape, span, parenthesized⟩ := e
  cases shape <;> rfl

theorem Stmt.isNothing_mapSpans (f : Span → Span) (s : Stmt) :
    (s.mapSpans f).isNothing = s.isNothing := by
  obtain ⟨shape, span, labels⟩ := s
  cases shape <;> rfl

mutual

theorem Expr.text_mapSpans (f : Span → Span) : ∀ e : Expr, (e.mapSpans f).text = e.text
  | ⟨shape, _, _⟩ => by
    simp only [Expr.mapSpans, Expr.text, ExprShape.text_mapSpans f shape]

theorem ExprShape.text_mapSpans (f : Span → Span) :
    ∀ e : ExprShape, (e.mapSpans f).text = e.text
  | .constant _ => rfl
  | .name _ => rfl
  | .declaration value => by
    simp only [ExprShape.mapSpans, ExprShape.text, Declaration.text_mapSpans f value]
  | .gstring _ _ _ => rfl
  | .property access => by
    simp only [ExprShape.mapSpans, ExprShape.text, Access.text_mapSpans f _ access]
  | .field access => by
    simp only [ExprShape.mapSpans, ExprShape.text, Access.text_mapSpans f _ access]
  | .methodPointer object method => by
    simp only [ExprShape.mapSpans, ExprShape.text, Expr.text_mapSpans f object,
      Expr.text_mapSpans f method]
  | .methodCall call => by
    simp only [ExprShape.mapSpans, ExprShape.text, Call.text_mapSpans f call]
  | .newObject type arguments => by
    simp only [ExprShape.mapSpans, ExprShape.text, TypeRef.text_mapSpans f type,
      Arguments.text_mapSpans f arguments]
  | .newArray type sizes => by
    simp only [ExprShape.mapSpans, ExprShape.text, TypeRef.text_mapSpans f type,
      sizeTexts_mapSpans f sizes]
  | .binary left op right => by
    simp only [ExprShape.mapSpans, ExprShape.text, Expr.text_mapSpans f left,
      Expr.text_mapSpans f right, Expr.subscriptText_mapSpans f right]
  | .range lower upper _ => by
    simp only [ExprShape.mapSpans, ExprShape.text, Expr.text_mapSpans f lower,
      Expr.text_mapSpans f upper]
  | .stepAfter expr _ => by
    simp only [ExprShape.mapSpans, ExprShape.text, Expr.text_mapSpans f expr]
  | .stepBefore _ expr => by
    simp only [ExprShape.mapSpans, ExprShape.text, Expr.text_mapSpans f expr]
  | .plus expr => by simp only [ExprShape.mapSpans, ExprShape.text, Expr.text_mapSpans f expr]
  | .minus expr => by simp only [ExprShape.mapSpans, ExprShape.text, Expr.text_mapSpans f expr]
  | .not expr => by simp only [ExprShape.mapSpans, ExprShape.text, Expr.text_mapSpans f expr]
  | .bitNot expr => by simp only [ExprShape.mapSpans, ExprShape.text, Expr.text_mapSpans f expr]
  | .truth expr => by simp only [ExprShape.mapSpans, ExprShape.text, Expr.text_mapSpans f expr]
  | .cast type expr true => by
    simp only [ExprShape.mapSpans, ExprShape.text, TypeRef.text_mapSpans f type,
      Expr.text_mapSpans f expr]
  | .cast type expr false => by
    simp only [ExprShape.mapSpans, ExprShape.text, TypeRef.text_mapSpans f type,
      Expr.text_mapSpans f expr]
  | .classValue type => by
    simp only [ExprShape.mapSpans, ExprShape.text, TypeRef.text_mapSpans f type]
  | .ternary condition yes no => by
    simp only [ExprShape.mapSpans, ExprShape.text, Expr.text_mapSpans f condition,
      Expr.text_mapSpans f yes, Expr.text_mapSpans f no]
  | .elvis value no => by
    simp only [ExprShape.mapSpans, ExprShape.text, Expr.text_mapSpans f value,
      Expr.text_mapSpans f no]
  | .closure .implicit code => by
    simp only [ExprShape.mapSpans, ClosureParameters.mapSpans, ExprShape.text,
      Stmt.text_mapSpans f code]
  | .closure (.explicit parameters) code => by
    simp only [ExprShape.mapSpans, ClosureParameters.mapSpans, mapSpansInParameters_eq,
      ExprShape.text, List.map_map, Stmt.text_mapSpans f code]
    congr 5
    exact funext fun p => Parameter.text_mapSpans f p
  | .list elements _ => by
    simp only [ExprShape.mapSpans, ExprShape.text, exprTexts_mapSpans f elements]
  | .map [] => rfl
  | .map (entry :: entries) => by
    have h := entryTexts_mapSpans f (entry :: entries)
    simp only [ExprShape.mapSpans, mapSpansInEntries, ExprShape.text] at h ⊢
    rw [h]
  | .spread expr => by simp only [ExprShape.mapSpans, ExprShape.text, Expr.text_mapSpans f expr]
  | .spreadMap expr => by
    simp only [ExprShape.mapSpans, ExprShape.text, Expr.text_mapSpans f expr]
  | .argumentList arguments => by
    simp only [ExprShape.mapSpans, ExprShape.text, Arguments.text_mapSpans f arguments]
  | .clauses exprs => by
    simp only [ExprShape.mapSpans, ExprShape.text, exprTexts_mapSpans f exprs]
  | .annotationUse ⟨_, _, _⟩ => rfl
  | .empty => rfl

theorem Expr.subscriptText_mapSpans (f : Span → Span) :
    ∀ e : Expr, (e.mapSpans f).subscriptText = e.subscriptText
  | ⟨shape, span, parenthesized⟩ => by
    have h := ExprShape.text_mapSpans f shape
    cases shape with
    | list elements wrapped =>
      cases wrapped with
      | true =>
        simp only [Expr.mapSpans, ExprShape.mapSpans, Expr.subscriptText,
          exprTexts_mapSpans f elements]
      | false => exact congrArg (inParentheses parenthesized) h
    | _ => exact congrArg (inParentheses parenthesized) h

theorem Declaration.text_mapSpans (f : Span → Span) :
    ∀ d : Declaration, (d.mapSpans f).text = d.text
  | ⟨declared, _, initializer, _, _⟩ => by
    obtain ⟨name, type, modifiers⟩ := declared
    have hdyn : (type.mapSpans f).shape.isDynamic = type.shape.isDynamic := by
      cases type
      exact TypeShape.isDynamic_mapSpans f _
    simp only [Declaration.mapSpans, Variable.mapSpans, Declaration.text, hdyn,
      TypeRef.text_mapSpans, Expr.isNothing_mapSpans, Expr.text_mapSpans f initializer]

theorem Access.text_mapSpans (f : Span → Span) (dot : String) :
    ∀ a : Access, (a.mapSpans f).text dot = a.text dot
  | ⟨object, member, _, _, _⟩ => by
    simp only [Access.mapSpans, Access.text, Expr.text_mapSpans f object,
      Expr.text_mapSpans f member]

theorem Call.text_mapSpans (f : Span → Span) : ∀ c : Call, (c.mapSpans f).text = c.text
  | ⟨object, method, arguments, _, _, _, generics⟩ => by
    have hgenerics : (generics.map (List.map (TypeArgument.mapSpans f))).map genericsText =
        generics.map genericsText := by
      cases generics with
      | none => rfl
      | some ts => simp only [Option.map_some, genericsText_mapSpans]
    simp only [Call.mapSpans, Call.text, Expr.text_mapSpans f object,
      Expr.text_mapSpans f method, Arguments.text_mapSpans f arguments, hgenerics]

theorem Arguments.text_mapSpans (f : Span → Span) :
    ∀ a : Arguments, (a.mapSpans f).text = a.text
  | .positional args _ => by
    simp only [Arguments.mapSpans, Arguments.text, exprTexts_mapSpans f args]
  | .named entries _ => by
    simp only [Arguments.mapSpans, Arguments.text, entryTexts_mapSpans f entries]

theorem exprTexts_mapSpans (f : Span → Span) :
    ∀ es : List Expr, exprTexts (mapSpansInExprs f es) = exprTexts es
  | [] => rfl
  | e :: rest => by
    simp only [mapSpansInExprs, exprTexts, Expr.text_mapSpans f e, exprTexts_mapSpans f rest]

theorem sizeTexts_mapSpans (f : Span → Span) :
    ∀ es : List Expr, sizeTexts (mapSpansInExprs f es) = sizeTexts es
  | [] => rfl
  | e :: rest => by
    simp only [mapSpansInExprs, sizeTexts, Expr.isNull_mapSpans, Expr.text_mapSpans f e,
      sizeTexts_mapSpans f rest]

theorem entryTexts_mapSpans (f : Span → Span) :
    ∀ es : List MapEntry, entryTexts (mapSpansInEntries f es) = entryTexts es
  | [] => rfl
  | ⟨key, value, _⟩ :: rest => by
    simp only [mapSpansInEntries, MapEntry.mapSpans, entryTexts, Expr.isSpreadKey_mapSpans,
      Expr.text_mapSpans f key, Expr.text_mapSpans f value, entryTexts_mapSpans f rest]

theorem Stmt.text_mapSpans (f : Span → Span) : ∀ s : Stmt, (s.mapSpans f).text = s.text
  | ⟨shape, _, _⟩ => by
    simp only [Stmt.mapSpans, Stmt.text, StmtShape.text_mapSpans f shape]

theorem StmtShape.text_mapSpans (f : Span → Span) :
    ∀ s : StmtShape, (s.mapSpans f).text = s.text
  | .block statements => by
    simp only [StmtShape.mapSpans, StmtShape.text, stmtTexts_mapSpans f statements]
  | .expression expr => by
    simp only [StmtShape.mapSpans, StmtShape.text, Expr.text_mapSpans f expr]
  | .assertion condition none => by
    simp only [StmtShape.mapSpans, mapSpansInExpr?, StmtShape.text, Expr.text_mapSpans f condition]
  | .assertion condition (some message) => by
    simp only [StmtShape.mapSpans, mapSpansInExpr?, StmtShape.text, Expr.text_mapSpans f condition,
      Expr.text_mapSpans f message]
  | .conditional condition yes no => by
    simp only [StmtShape.mapSpans, StmtShape.text, Expr.text_mapSpans f condition,
      Stmt.text_mapSpans f yes, Stmt.isNothing_mapSpans, Stmt.text_mapSpans f no]
  | .forLoop none collection body => by
    simp only [StmtShape.mapSpans, mapSpansInParameter?, StmtShape.text,
      Expr.text_mapSpans f collection, Stmt.text_mapSpans f body]
  | .forLoop (some binder) collection body => by
    have hname : (binder.mapSpans f).name = binder.name := by
      cases binder
      rfl
    simp only [StmtShape.mapSpans, mapSpansInParameter?, StmtShape.text, hname,
      Expr.text_mapSpans f collection, Stmt.text_mapSpans f body]
  | .whileLoop condition body => by
    simp only [StmtShape.mapSpans, StmtShape.text, Expr.text_mapSpans f condition,
      Stmt.text_mapSpans f body]
  | .tryCatch body _ _ => by
    simp only [StmtShape.mapSpans, StmtShape.text, Stmt.text_mapSpans f body]
  | .switch subject _ _ => by
    simp only [StmtShape.mapSpans, StmtShape.text, Expr.text_mapSpans f subject]
  | .synchronized lock body => by
    simp only [StmtShape.mapSpans, StmtShape.text, Expr.text_mapSpans f lock,
      Stmt.text_mapSpans f body]
  | .returnValue value => by
    simp only [StmtShape.mapSpans, StmtShape.text, Expr.text_mapSpans f value]
  | .throwValue value => by
    simp only [StmtShape.mapSpans, StmtShape.text, Expr.text_mapSpans f value]
  | .breakLoop none => rfl
  | .breakLoop (some _) => rfl
  | .continueLoop none => rfl
  | .continueLoop (some _) => rfl
  | .empty => rfl

theorem stmtTexts_mapSpans (f : Span → Span) :
    ∀ ss : List Stmt, stmtTexts (mapSpansInStmts f ss) = stmtTexts ss
  | [] => rfl
  | s :: rest => by
    simp only [mapSpansInStmts, stmtTexts, Stmt.text_mapSpans f s, stmtTexts_mapSpans f rest]

end

end GroovyLowering
