import GroovyLowering.Lower.Level
import GroovyLowering.Proofs.Step
import GroovyLowering.Proofs.Written.Text

/-!
# Written back

A lowered expression restores a tree when its written form is the text of the tree, spaces left
out (`Expr.Restores.text`).  The other fields are what the constructs around it need to know:
which expressions have parentheses, a foldable constant or a name, and that none of them stands for
several elements or for a spread one.

Most constructs are lowered to a shape of their own without parentheses, and for them only the text
is to be shown (`Restores.of_shape`).
-/

namespace GroovyLowering

/-! ## The text of an expression -/

theorem Expr.text_eq (e : Expr) : e.text = inParentheses e.parenthesized e.shape.text := by
  obtain ⟨shape, span, parenthesized⟩ := e
  rw [Expr.text]

@[simp] theorem Expr.text_withSpan (e : Expr) (span : Span) : (e.withSpan span).text = e.text := by
  rw [text_eq, text_eq]
  rfl

theorem Arguments.text_withSpan (arguments : Arguments) (span : Span) :
    (arguments.withSpan span).text = arguments.text := by
  cases arguments <;> rw [withSpan, text, text]

@[simp] theorem Expr.text_symbol (name : String) (span : Span) :
    (symbol name span).text = name := by
  rw [text_eq]
  rfl

theorem exprTexts_eq (es : List Expr) : exprTexts es = es.map Expr.text := by
  induction es with
  | nil => rw [exprTexts, List.map_nil]
  | cons e es ih => rw [exprTexts, List.map_cons, ih]

/-- The written form of an entry. -/
def MapEntry.text (m : MapEntry) : String :=
  if m.key.isSpreadKey then m.key.text else m.key.text ++ ": " ++ m.value.text

theorem entryTexts_eq (ms : List MapEntry) : entryTexts ms = ms.map MapEntry.text := by
  induction ms with
  | nil => rw [entryTexts, List.map_nil]
  | cons m ms ih =>
    obtain ⟨key, value, span⟩ := m
    rw [entryTexts, List.map_cons, ih]
    rfl

/-! ## What stands alone -/

/-- Whether an expression stands for one element that is not spread. -/
def ExprShape.standsAlone : ExprShape → Bool
  | .spread _ | .spreadMap _ | .list _ true => false
  | _ => true

theorem Expr.subscriptText_eq {e : Expr} (h : e.shape.standsAlone) : e.subscriptText = e.text := by
  rw [subscriptText.eq_def, text_eq]
  split
  · cases h
  · rfl

theorem Expr.isSpreadKey_eq {e : Expr} (h : e.shape.standsAlone) : e.isSpreadKey = false := by
  rw [isSpreadKey]
  split
  · next heq =>
    rw [heq] at h
    cases h
  · rfl

theorem Scope.indexOf_singleton {e : Expr} (h : e.shape.standsAlone) (span : Span) :
    indexOf span [e] = e.withSpan span := by
  rw [indexOf.eq_def]
  split
  · next heq =>
    cases heq
    cases h
  · next heq =>
    cases heq
    rfl
  · next hsingle =>
    exact absurd rfl (hsingle e)

/-- Several elements of a subscript, or none, are written without brackets of their own. -/
theorem Scope.subscriptText_indexOf {es : List Expr} (h : es.length ≠ 1) (span : Span) :
    (indexOf span es).subscriptText = ", ".intercalate (exprTexts es) := by
  rw [indexOf.eq_def]
  split
  · exact absurd rfl h
  · exact absurd rfl h
  · rw [Expr.subscriptText]

/-! ## Restoring a tree -/

/-- A lowered expression says what a tree says, and its written form is the text of the tree. -/
structure Expr.Restores (e : Expr) (n : Node) : Prop where
  text : unspaced e.text = unspaced n.text
  parenthesized : e.parenthesized = (n.kind == .parExpression)
  foldable? : n.kind ≠ .literal → e.foldable? = none
  standsAlone : e.shape.standsAlone = true
  asVariable? : ∀ name, n = Production.identifier name →
    ∃ v, e.asVariable? = some v ∧ v.name = name

/-- A lowering succeeds with an expression that restores a tree. -/
def Lowered.Restores (x : Lowered Expr) (n : Node) : Prop := ∃ e, x = .ok e ∧ e.Restores n

/-- Whether a shape is no constant and stands alone. -/
def ExprShape.isProper : ExprShape → Bool
  | .constant _ => false
  | shape => shape.standsAlone

/-- Whether the expressions of a production are no names and have no parentheses. -/
def NodeKind.isProper : NodeKind → Bool
  | .parExpression | .identifier => false
  | _ => true

namespace Lowered.Restores

theorem of_shape {x : Lowered Expr} {n : Node} {shape : ExprShape} {span : Span}
    (hx : x = .ok { shape, span }) (hshape : shape.isProper) (hkind : n.kind.isProper)
    (htext : unspaced shape.text = unspaced n.text) : Restores x n := by
  refine ⟨_, hx, ?_, ?_, ?_, ?_, ?_⟩
  · rw [Expr.text_eq]
    exact htext
  · have hpar : n.kind ≠ .parExpression := by
      intro h
      rw [h] at hkind
      cases hkind
    exact (beq_eq_false_iff_ne.2 hpar).symm
  · intro _
    cases shape with
    | constant => cases hshape
    | _ => rfl
  · cases shape with
    | constant => cases hshape
    | _ => exact hshape
  · intro name h
    subst h
    cases hkind

end Lowered.Restores

end GroovyLowering
