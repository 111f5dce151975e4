import GroovyLowering.Proofs.WellFormed.Part

/-!
# Well-formed files

A file is well formed when every part of it is, and every part has two rules to follow.  One is
about where it stands: only some slots admit a truth value, the indices of a subscript, the clauses
of a header or a declaration (`Slot.Admits`).  The other is about what it is put together from
(`ExprShape.WellFormed`, `StmtShape.WellFormed`).

What is asked of a part and of everything inside it is asked of the part and then of its own parts
(`Part.forall_inside_iff`), which is how the lowering builds it up.
-/

namespace GroovyLowering

/-! ## Where an expression may stand -/

/-- The forms of expressions that may not stand everywhere. -/
inductive Form where
  /-- A truth value. -/
  | truth
  /-- A list of several indices. -/
  | wrapped
  /-- The clauses of a header. -/
  | clauses
  /-- A declaration. -/
  | declaration
  /-- Any other form. -/
  | plain
deriving DecidableEq, Repr

/-- The form of an expression. -/
def ExprShape.form : ExprShape → Form
  | .truth _ => .truth
  | .list _ true => .wrapped
  | .clauses _ => .clauses
  | .declaration _ => .declaration
  | _ => .plain

/-- Conditions are truth values and nothing else is.  Several indices stand in a subscript only,
clauses in a header, and declarations where a statement or the first clause of a header is. -/
def Slot.Admits (slot : Slot) (form : Form) : Prop :=
  (form = .truth ↔ slot = .condition) ∧
  (form = .wrapped → slot = .subscript) ∧
  (form = .clauses → slot = .header ∨ slot = .init) ∧
  (form = .declaration → slot = .statement ∨ slot = .init ∨ slot = .initItem)

instance (slot : Slot) (form : Form) : Decidable (slot.Admits form) :=
  inferInstanceAs (Decidable (_ ∧ _ ∧ _ ∧ _))

theorem Slot.admits_operand_iff (form : Form) : Slot.operand.Admits form ↔ form = .plain := by
  cases form <;> decide

theorem Slot.admits_plain {slot : Slot} (h : slot ≠ .condition) : slot.Admits .plain := by
  cases slot <;> first | decide | exact absurd rfl h

/-! ## What a part is put together from -/

/-- Whether a statement is a block. -/
def Stmt.IsBlock (s : Stmt) : Prop := ∃ statements, s.shape = .block statements

/-- A call has at most one kind of safety.  A call of the object that is not written is one of a
method of `this` by a name or a value, and nothing else is said about it. -/
structure Call.WellFormed (c : Call) : Prop where
  safety : (c.safe && c.spreadSafe) = false
  implicitThis : c.implicitThis = true →
    (∃ v, c.object.shape = .name v ∧ v.name = "this") ∧ c.method.asVariable? = none ∧
      c.generics = none ∧ c.safe = false ∧ c.spreadSafe = false

theorem Call.wellFormed_of_explicit {c : Call} (hsafety : (c.safe && c.spreadSafe) = false)
    (hexplicit : c.implicitThis = false) : c.WellFormed where
  safety := hsafety
  implicitThis := fun h => absurd (hexplicit.symm.trans h) Bool.false_ne_true

/-- A member that is taken of every element is taken safely. -/
def Access.WellFormed (a : Access) : Prop := a.spreadSafe = true → a.safe = true

theorem Access.wellFormed_of_one {a : Access} (h : a.spreadSafe = false) : a.WellFormed := by
  intro hspread
  rw [h] at hspread
  cases hspread

/-- A name of a tuple has a place in it. -/
def Declaration.WellFormed (d : Declaration) : Prop := ∀ slot ∈ d.slot, slot.index < slot.arity

def ExprShape.WellFormed : ExprShape → Prop
  | .methodCall call => call.WellFormed
  | .property access => access.WellFormed
  | .field access => access.WellFormed ∧ access.generics = none
  | .declaration value => value.WellFormed
  | .closure _ code => code.IsBlock
  | _ => True

/-- A loop has no variable exactly when it goes over clauses, which are three. -/
def HeaderWellFormed (binder : Option Parameter) (collection : Expr) : Prop :=
  (binder = none ↔ ∃ clauses, collection.shape = .clauses clauses) ∧
    ∀ clauses, collection.shape = .clauses clauses → clauses.length = 3

/-- The end of a try statement is nothing, or a block around a block. -/
def Stmt.IsEnd (s : Stmt) : Prop :=
  s.shape = .empty ∨ ∃ block, s.shape = .block [block] ∧ block.IsBlock

def StmtShape.WellFormed : StmtShape → Prop
  | .forLoop binder collection _ => HeaderWellFormed binder collection
  | .tryCatch body catches atEnd =>
    body.IsBlock ∧ (∀ c ∈ catches, c.body.IsBlock) ∧ atEnd.IsEnd
  | _ => True

/-- The rules for a part, apart from its own parts. -/
def Part.WellFormed : Part → Prop
  | .expr slot e => slot.Admits e.shape.form ∧ e.shape.WellFormed
  | .stmt s => s.shape.WellFormed

/-- The rules for a file. -/
structure CompilationUnit.WellFormed (u : CompilationUnit) : Prop where
  parts : ∀ q, u.Contains q → q.WellFormed
  bodies : ∀ m ∈ u.methods, ∀ body ∈ m.body, body.IsBlock

/-! ## The rules for everything inside a part -/

/-- What is asked of a part and everything inside it is asked of the part and, in the same way, of
its own parts. -/
theorem Part.forall_inside_iff {P : Part → Prop} (p : Part) :
    (∀ q, p.Inside q → P q) ↔ P p ∧ ∀ q ∈ p.parts, ∀ r, q.Inside r → P r := by
  constructor
  · intro h
    exact ⟨h p .refl, fun q hq r hr => h r (Relation.ReflTransGen.head hq hr)⟩
  · rintro ⟨hp, hparts⟩ r hr
    rcases Relation.ReflTransGen.cases_head hr with rfl | ⟨q, hq, hr⟩
    · exact hp
    · exact hparts q hq r hr

/-- Only clauses look at the slot they stand in. -/
theorem ExprShape.parts_eq {shape : ExprShape} (h : shape.form ≠ .clauses) (slot slot' : Slot) :
    shape.parts slot = shape.parts slot' := by
  cases shape with
  | clauses => exact absurd rfl h
  | _ => rfl

end GroovyLowering
