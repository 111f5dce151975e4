import GroovyLowering.Proofs.Equations
import GroovyLowering.Proofs.Spans.Text

/-!
# Spans flow only into spans

The functions that take a lowered expression apart and build another one from it never look at a
span.  So they commute with `mapSpans`: replacing the spans of what goes in gives the same as
replacing the spans of what comes out.

* Questions about an expression have the same answer (`Expr.isCall_mapSpans` and its siblings).
* Functions from expressions to expressions commute (`Expr.asMethod_mapSpans` and its siblings).
* A call may be refused, so `Expr.applyArguments_mapSpans` speaks of errors as well.  The place of
  an error is a span like any other.
-/

namespace GroovyLowering

/-! ## Errors -/

/-- An error with its place replaced. -/
def CompileError.mapSpans (f : Span → Span) : CompileError → CompileError
  | .structural complaint text span => .structural complaint text (f span)
  | .invalid complaint span => .invalid complaint (f span)
  | .relayed message span => .relayed message (f span)
  | .nestingTooDeep limit span => .nestingTooDeep limit (f span)

/-- The result of a lowering with every span replaced. -/
def Lowered.mapSpans (f : Span → Span) : Lowered Expr → Lowered Expr
  | .ok e => .ok (e.mapSpans f)
  | .error e => .error (e.mapSpans f)

/-! ## Types -/

theorem TypeShape.withGenerics_mapSpans (f : Span → Span) (generics : Option (List TypeArgument))
    (shape : TypeShape) :
    (shape.withGenerics generics).mapSpans f =
      (shape.mapSpans f).withGenerics (generics.map (List.map (TypeArgument.mapSpans f))) := by
  cases shape with
  | named name own => simp only [withGenerics, mapSpans, mapSpansInGenerics?_eq]
  | primitive => rfl
  | array => rfl
  | void => rfl
  | dynamic => rfl

theorem TypeRef.arrayOf_mapSpans (f : Span → Span) (type : TypeRef) :
    type.arrayOf.mapSpans f = (type.mapSpans f).arrayOf := by
  cases type
  rfl

theorem TypeRef.withDimensions_mapSpans (f : Span → Span) (type : TypeRef) (count : Nat) :
    (type.withDimensions count).mapSpans f = (type.mapSpans f).withDimensions count := by
  induction count with
  | zero => rfl
  | succ count ih => rw [withDimensions, withDimensions, arrayOf_mapSpans, ih]

namespace Expr

variable (f : Span → Span)

/-! ## Questions about an expression -/

theorem asVariable?_mapSpans (e : Expr) :
    (e.mapSpans f).asVariable? = e.asVariable?.map (Variable.mapSpans f) := by
  obtain ⟨shape, span, parenthesized⟩ := e
  cases shape <;> rfl

theorem asConstant?_mapSpans (e : Expr) : (e.mapSpans f).asConstant? = e.asConstant? := by
  obtain ⟨shape, span, parenthesized⟩ := e
  cases shape <;> rfl

theorem isCall_mapSpans (e : Expr) : (e.mapSpans f).isCall = e.isCall := by
  obtain ⟨shape, span, parenthesized⟩ := e
  cases shape <;> rfl

theorem isAccess_mapSpans (e : Expr) : (e.mapSpans f).isAccess = e.isAccess := by
  obtain ⟨shape, span, parenthesized⟩ := e
  cases shape <;> rfl

theorem parenthesized_mapSpans (e : Expr) : (e.mapSpans f).parenthesized = e.parenthesized := by
  cases e
  rfl

theorem isAssignable_mapSpans (e : Expr) : (e.mapSpans f).isAssignable = e.isAssignable := by
  rw [isAssignable, isAssignable, asVariable?_mapSpans, parenthesized_mapSpans]
  cases e.asVariable? <;> rfl

theorem foldable?_mapSpans (e : Expr) : (e.mapSpans f).foldable? = e.foldable? := by
  rw [foldable?, foldable?, asConstant?_mapSpans, parenthesized_mapSpans]

/-! ## Names -/

theorem withSpan_mapSpans (e : Expr) (span : Span) :
    (e.withSpan span).mapSpans f = (e.mapSpans f).withSpan (f span) := by
  cases e
  rfl

theorem eraseSpans_withSpan (e : Expr) (span : Span) :
    (e.withSpan span).eraseSpans = e.eraseSpans := by
  cases e
  rfl

theorem symbol_mapSpans (text : String) (span : Span) :
    (symbol text span).mapSpans f = symbol text (f span) := rfl

theorem named_mapSpans (name : String) (span : Span) :
    (named name span).mapSpans f = named name (f span) := rfl

theorem asMethod_mapSpans (e : Expr) : e.asMethod.mapSpans f = (e.mapSpans f).asMethod := by
  obtain ⟨shape, span, parenthesized⟩ := e
  cases shape <;> rfl

theorem asName_mapSpans (e : Expr) : e.asName.mapSpans f = (e.mapSpans f).asName := by
  rw [asName, asName, asVariable?_mapSpans, text_mapSpans]
  cases e
  cases asVariable? _ <;> rfl

theorem asKey_mapSpans (e : Expr) : e.asKey.mapSpans f = (e.mapSpans f).asKey := by
  rw [asKey, asKey, asVariable?_mapSpans, parenthesized_mapSpans]
  cases e.asVariable? with
  | none => rfl
  | some v =>
    cases e with
    | mk shape span parenthesized => cases parenthesized <;> rfl

/-! ## Calls -/

theorem callValue_mapSpans (object : Expr) (arguments : Arguments) (span : Span) :
    (object.callValue arguments span).mapSpans f =
      (object.mapSpans f).callValue (arguments.mapSpans f) (f span) := by
  cases object
  rfl

theorem callOnThis_mapSpans (name : Expr) (arguments : Arguments) (span : Span) :
    (name.callOnThis arguments span).mapSpans f =
      (name.mapSpans f).callOnThis (arguments.mapSpans f) (f span) := by
  rw [callOnThis, callOnThis, ← asMethod_mapSpans]
  cases name.asMethod
  rfl

end Expr

theorem Access.call_mapSpans (f : Span → Span) (access : Access) (arguments : Arguments)
    (span : Span) :
    (access.call arguments span).mapSpans f =
      (access.mapSpans f).call (arguments.mapSpans f) (f span) := by
  cases access
  rfl

theorem Arguments.withClosure_mapSpans (f : Span → Span) (closure : Expr) (arguments : Arguments) :
    (arguments.withClosure closure).mapSpans f =
      (arguments.mapSpans f).withClosure (closure.mapSpans f) := by
  cases arguments with
  | positional args span => simp [withClosure]
  | named entries span => simp [withClosure]

theorem Arguments.withSpan_mapSpans (f : Span → Span) (arguments : Arguments) (span : Span) :
    (arguments.withSpan span).mapSpans f = (arguments.mapSpans f).withSpan (f span) := by
  cases arguments <;> rfl

theorem Arguments.span_mapSpans (f : Span → Span) (arguments : Arguments) :
    (arguments.mapSpans f).span = f arguments.span := by
  cases arguments <;> rfl

/-- How a call attaches does not depend on spans. -/
theorem Expr.applyArguments_mapSpans (f : Span → Span) (receiver : Expr) (arguments : Arguments)
    (span : Span) :
    Lowered.mapSpans f (receiver.applyArguments arguments span) =
      (receiver.mapSpans f).applyArguments (arguments.mapSpans f) (f span) := by
  obtain ⟨shape, place, parenthesized⟩ := receiver
  cases shape with
  | name v =>
    by_cases hvoid : v.name = "void"
    · simp only [applyArguments, Expr.mapSpans, ExprShape.mapSpans, Variable.mapSpans, hvoid,
        if_pos, Lowered.mapSpans, callValue_mapSpans, symbol_mapSpans]
    · by_cases hprimitive : v.name ∈ primitiveTypes
      · simp only [applyArguments, Expr.mapSpans, ExprShape.mapSpans, Variable.mapSpans, hvoid,
          hprimitive, if_pos, if_false, Lowered.mapSpans, CompileError.mapSpans]
      · simp only [applyArguments, Expr.mapSpans, ExprShape.mapSpans, Variable.mapSpans, hvoid,
          hprimitive, if_false, Lowered.mapSpans, callOnThis_mapSpans]
  | constant c =>
    by_cases hstring : c.tag = .string
    · simp only [applyArguments, Expr.mapSpans, ExprShape.mapSpans, hstring, if_pos,
        Lowered.mapSpans, callOnThis_mapSpans]
    · simp only [applyArguments, Expr.mapSpans, ExprShape.mapSpans, hstring, if_false,
        Lowered.mapSpans, callValue_mapSpans]
  | field access =>
    cases access
    simp only [applyArguments, Lowered.mapSpans, callValue_mapSpans, Expr.mapSpans,
      ExprShape.mapSpans, Access.mapSpans]
  | property access =>
    simp only [applyArguments, Lowered.mapSpans, Access.call_mapSpans, Expr.mapSpans,
      ExprShape.mapSpans]
  | gstring => simp only [applyArguments, Lowered.mapSpans, callOnThis_mapSpans, Expr.mapSpans,
      ExprShape.mapSpans]
  | _ => simp only [applyArguments, Lowered.mapSpans, callValue_mapSpans, Expr.mapSpans,
      ExprShape.mapSpans]

/-- How a closure attaches does not depend on spans. -/
theorem Expr.applyClosure_mapSpans (f : Span → Span) (receiver closure : Expr) (span : Span) :
    (receiver.applyClosure closure span).mapSpans f =
      (receiver.mapSpans f).applyClosure (closure.mapSpans f) (f span) := by
  have halone : Arguments.mapSpans f (.positional [closure] closure.span) =
      .positional [closure.mapSpans f] (closure.mapSpans f).span := by
    cases closure
    rfl
  obtain ⟨shape, place, parenthesized⟩ := receiver
  cases shape with
  | methodCall call =>
    cases call
    simp only [applyClosure, Expr.mapSpans, ExprShape.mapSpans, Call.mapSpans,
      Arguments.withClosure_mapSpans]
  | property access =>
    simp only [applyClosure, Expr.mapSpans, ExprShape.mapSpans, Access.call_mapSpans, halone]
  | field access =>
    simp only [applyClosure, Expr.mapSpans, ExprShape.mapSpans, Access.call_mapSpans, halone]
  | constant c =>
    by_cases hnumeric : c.tag = .numeric
    · simp only [applyClosure, Expr.mapSpans, ExprShape.mapSpans, hnumeric, if_pos,
        callValue_mapSpans, halone]
    · simp only [applyClosure, Expr.mapSpans, ExprShape.mapSpans, hnumeric, if_false,
        callOnThis_mapSpans, halone]
  | _ => simp only [applyClosure, callOnThis_mapSpans, halone, Expr.mapSpans, ExprShape.mapSpans]

/-- The call that a command makes of its base does not depend on spans. -/
theorem headCall_mapSpans (f : Span → Span) (base : Expr) (arguments : Arguments) :
    (Scope.headCall base arguments).mapSpans f =
      Scope.headCall (base.mapSpans f) (arguments.mapSpans f) := by
  obtain ⟨shape, span, parenthesized⟩ := base
  cases shape with
  | property access =>
    simp only [Scope.headCall, Access.call_mapSpans, Expr.mapSpans, ExprShape.mapSpans,
      Arguments.span_mapSpans]
  | field access =>
    simp only [Scope.headCall, Access.call_mapSpans, Expr.mapSpans, ExprShape.mapSpans,
      Arguments.span_mapSpans]
  | binary left op right =>
    simp only [Scope.headCall, Expr.callValue_mapSpans, Expr.mapSpans, ExprShape.mapSpans,
      Arguments.span_mapSpans]
  | _ =>
    simp only [Scope.headCall, Expr.callOnThis_mapSpans, Expr.mapSpans, ExprShape.mapSpans,
      Arguments.span_mapSpans]

/-! ## Operators, members and subscripts -/

theorem binaryShape?_mapSpans (f : Span → Span) (left right : Expr) (op : String) :
    (Scope.binaryShape? left op right).map (ExprShape.mapSpans f) =
      Scope.binaryShape? (left.mapSpans f) op (right.mapSpans f) := by
  rw [Scope.binaryShape?, Scope.binaryShape?]
  split
  · rfl
  · split
    · rfl
    · rw [Option.map_map]
      rfl

theorem memberShape?_mapSpans (f : Span → Span) (object member : Expr)
    (generics : Option (List TypeArgument)) (isField : Bool) (op : Option String) :
    (Scope.memberShape? object member generics isField op).map (ExprShape.mapSpans f) =
      Scope.memberShape? (object.mapSpans f) (member.mapSpans f)
        (generics.map (List.map (TypeArgument.mapSpans f))) isField op := by
  unfold Scope.memberShape?
  split <;> cases isField <;> rfl

theorem indexOf_mapSpans (f : Span → Span) (span : Span) (es : List Expr) :
    (Scope.indexOf span es).mapSpans f = Scope.indexOf (f span) (es.map (Expr.mapSpans f)) := by
  cases es with
  | nil => rfl
  | cons e es =>
    cases es with
    | nil =>
      obtain ⟨shape, place, parenthesized⟩ := e
      cases shape <;> rfl
    | cons e' es => simp [Scope.indexOf]

/-! ## Interpolated strings -/

theorem verbatimText_mapSpans (f : Span → Span) (strings values : List Expr) :
    verbatimText (strings.map (Expr.mapSpans f)) (values.map (Expr.mapSpans f)) =
      verbatimText strings values := by
  induction strings generalizing values with
  | nil => rfl
  | cons string strings ih =>
    cases values with
    | nil =>
      have := ih []
      simp only [List.map_cons, List.map_nil, verbatimText, Expr.asConstant?_mapSpans] at this ⊢
      rw [this]
    | cons value values =>
      simp only [List.map_cons, verbatimText, Expr.asConstant?_mapSpans, Expr.text_mapSpans, ih]

/-! ## Statements -/

theorem Stmt.expression?_mapSpans (f : Span → Span) (s : Stmt) :
    (s.mapSpans f).expression? = s.expression?.map (Expr.mapSpans f) := by
  obtain ⟨shape, span, labels⟩ := s
  cases shape <;> rfl

end GroovyLowering
