import GroovyLowering.Proofs.Equations
import GroovyLowering.Proofs.Step
import GroovyLowering.Proofs.Tokens
import GroovyLowering.Proofs.WellFormed.Rule

/-!
# What holds everywhere in a result

An `Invariant` is a property of parts that the lowering keeps.  Every part that has it is well
formed, and so are the parts of that part.  In the other direction a well-formed part has it if its
own parts do.

Two forms of expressions may be asked more of.

* A list has the property within a budget that is by one larger than that of its elements.  So the
  budget bounds how deep lists nest.
* An operator that assigns has an operand in front of it that may be assigned to, or else the
  expression is what a node for operators between two operands is lowered to.

A scope has a number of levels left.  What it lowers a node to has the property within every budget
that covers these levels and the arrays that nest in the node (`Invariant.Covers`), since an array
of values is lowered to a list and does not count as a level.

The modules beside this one go through the lowering construct by construct.  Calls take their
receiver apart, so they are where it matters that parts of a part have the property as well.
-/

namespace GroovyLowering

/-! ## Arrays in a tree -/

mutual

/-- How deep arrays of values nest in a tree. -/
def Node.arrayDepth : Node → Nat
  | ⟨_, children⟩ => arrayDepthIn children

/-- How deep arrays of values nest in a child, which may be one itself. -/
def Element.arrayDepth (role : Role) : Element → Nat
  | .node n => if role = .array then n.arrayDepth + 1 else n.arrayDepth
  | .token _ => 0

/-- How deep arrays of values nest in a list of children. -/
def arrayDepthIn : List (Role × Element) → Nat
  | [] => 0
  | (role, e) :: rest => max (e.arrayDepth role) (arrayDepthIn rest)

end

theorem arrayDepth_le_arrayDepthIn {children : List (Role × Element)} {role : Role} {e : Element}
    (h : (role, e) ∈ children) : e.arrayDepth role ≤ arrayDepthIn children := by
  induction children with
  | nil => cases h
  | cons child rest ih =>
    obtain ⟨r, e'⟩ := child
    rw [arrayDepthIn]
    rcases List.mem_cons.1 h with heq | hrest
    · cases heq
      exact Nat.le_max_left _ _
    · exact Nat.le_trans (ih hrest) (Nat.le_max_right _ _)

namespace Node

variable {n c : Node} {role : Role}

theorem arrayDepth_le_of_mem_children (h : (role, Element.node c) ∈ n.children) :
    (if role = .array then c.arrayDepth + 1 else c.arrayDepth) ≤ n.arrayDepth := by
  obtain ⟨kind, children⟩ := n
  exact arrayDepth_le_arrayDepthIn h

/-- Arrays nest no deeper in a subtree. -/
theorem arrayDepth_le (h : c ∈ n.nodes role) : c.arrayDepth ≤ n.arrayDepth := by
  have hle := arrayDepth_le_of_mem_children (mem_children_of_mem_nodes h)
  split at hle <;> omega

/-- Arrays nest less deep in an array than in the tree that has it. -/
theorem arrayDepth_lt (h : c ∈ n.nodes .array) : c.arrayDepth < n.arrayDepth := by
  have hle := arrayDepth_le_of_mem_children (mem_children_of_mem_nodes h)
  rw [if_pos rfl] at hle
  exact hle

end Node

/-! ## Invariants -/

/-- A node for operators between two operands is lowered to this. -/
def Scope.Operates (s : Scope) (n : Node) (shape : ExprShape) : Prop :=
  n.kind = .binary ∧ ∃ e, s.binary n = .ok e ∧ e.shape = shape

/-- An operator takes its operands.  An operator that assigns has one in front that may be assigned
to, unless it is in what a node for operators between two operands is lowered to. -/
def BinaryOp.Takes (scope : Scope → Prop) (node : Node → Prop) (op : BinaryOp)
    (left right : Expr) : Prop :=
  op.isAssignment = true → left.isAssignable = true ∨
    ∃ s n, scope s ∧ node n ∧ s.Operates n (.binary left op right)

/-- Whether an expression is neither a list nor an operator between two operands. -/
def ExprShape.isCommon : ExprShape → Bool
  | .list .. | .binary .. => false
  | _ => true

/-- Whether a part is neither a list nor an operator between two operands. -/
def Part.isCommon : Part → Bool
  | .expr _ e => e.shape.isCommon
  | .stmt _ => true

/-- A property of parts that the lowering keeps. -/
structure Invariant where
  /-- Which scopes nodes are lowered with. -/
  scope : Scope → Prop
  /-- Which nodes are looked at. -/
  node : Node → Prop
  /-- What holds of a part, within a budget. -/
  holds : Nat → Part → Prop
  child : ∀ {n c : Node} {role : Role}, node n → c ∈ n.nodes role → node c
  mono : ∀ {j k : Nat} {p : Part}, holds j p → j ≤ k → holds k p
  wellFormed : ∀ {k : Nat} {p : Part}, holds k p → p.WellFormed
  parts : ∀ {k : Nat} {p : Part}, holds k p → ∀ q ∈ p.parts, holds k q
  /-- An expression may move to a slot that admits it, where its parts stand as before. -/
  move : ∀ {k : Nat} {slot slot' : Slot} {e e' : Expr}, holds k (.expr slot e) →
    e'.shape = e.shape → e'.shape.parts slot' = e.shape.parts slot → slot'.Admits e'.shape.form →
    holds k (.expr slot' e')
  build : ∀ {k : Nat} {p : Part}, p.WellFormed → p.isCommon = true → (∀ q ∈ p.parts, holds k q) →
    holds k p
  list : ∀ {k : Nat} {slot : Slot} {e : Expr} {elements : List Expr} {wrapped : Bool},
    e.shape = .list elements wrapped → slot.Admits e.shape.form →
    (∀ x ∈ elements, holds k x.part) → holds (k + 1) (.expr slot e)
  binary : ∀ {k : Nat} {slot : Slot} {e left right : Expr} {op : BinaryOp},
    e.shape = .binary left op right → slot.Admits e.shape.form →
    holds k left.part → holds k (.expr op.rightSlot right) → op.Takes scope node left right →
    holds k (.expr slot e)

namespace Invariant

variable {I : Invariant} {d j k : Nat} {n c : Node} {role : Role} {p q : Part}

/-- What holds of a part holds of everything inside it. -/
theorem holds_of_inside (h : I.holds k p) (hq : p.Inside q) : I.holds k q := by
  induction hq with
  | refl => exact h
  | tail _ hpart ih => exact I.parts ih _ hpart

/-! ## Parts that have the property -/

/-- The property holds of all of some parts. -/
def All (I : Invariant) (k : Nat) (ps : List Part) : Prop := ∀ p ∈ ps, I.holds k p

/-- The property holds of an expression that stands as an operand. -/
def Sound (I : Invariant) (k : Nat) (e : Expr) : Prop := I.holds k e.part

/-- The property holds of a statement. -/
def SoundStmt (I : Invariant) (k : Nat) (x : Stmt) : Prop := I.holds k (.stmt x)

/-- What a statement says makes a statement with the property. -/
def SoundShape (I : Invariant) (k : Nat) (shape : StmtShape) : Prop :=
  shape.WellFormed ∧ I.All k shape.parts

section All

variable {α : Type} {ps qs : List Part} {xs : List α}

@[simp] theorem all_nil : I.All k [] := List.forall_mem_nil _

@[simp] theorem all_cons : I.All k (p :: ps) ↔ I.holds k p ∧ I.All k ps := List.forall_mem_cons

theorem all_singleton : I.All k [p] ↔ I.holds k p := List.forall_mem_singleton

theorem all_pair : I.All k [p, q] ↔ I.holds k p ∧ I.holds k q := by
  rw [all_cons, all_singleton]

@[simp] theorem all_append : I.All k (ps ++ qs) ↔ I.All k ps ∧ I.All k qs :=
  List.forall_mem_append

@[simp] theorem all_map {f : α → Part} : I.All k (xs.map f) ↔ ∀ x ∈ xs, I.holds k (f x) :=
  List.forall_mem_map

@[simp] theorem all_flatMap {f : α → List Part} :
    I.All k (xs.flatMap f) ↔ ∀ x ∈ xs, I.All k (f x) :=
  List.forall_mem_flatMap

theorem All.raise (h : I.All k ps) : I.All (k + 1) ps :=
  fun p hp => I.mono (h p hp) (Nat.le_succ k)

end All

theorem soundStmt {x : Stmt} (h : I.SoundShape k x.shape) : I.SoundStmt k x :=
  I.build h.1 rfl h.2

theorem soundStmt_nothing (I : Invariant) (k : Nat) (span : Span) :
    I.SoundStmt k (.nothing span) :=
  soundStmt ⟨trivial, all_nil⟩

/-- An expression is put together from its parts. -/
theorem sound {e : Expr} (hform : e.shape.form = .plain) (hcommon : e.shape.isCommon = true)
    (hrule : e.shape.WellFormed) (hparts : I.All k (e.shape.parts .operand)) : I.Sound k e := by
  have hadmits : Slot.operand.Admits e.shape.form := (Slot.admits_operand_iff _).2 hform
  exact I.build ⟨hadmits, hrule⟩ hcommon hparts

theorem sound_list {es : List Expr} (h : ∀ e ∈ es, I.Sound k e) (span : Span) :
    I.Sound (k + 1) { shape := .list es false, span } :=
  I.list rfl ((Slot.admits_operand_iff _).2 rfl) h

/-! ## Expressions with the property -/

namespace Sound

variable {e e' : Expr}

theorem raise (h : I.Sound k e) : I.Sound (k + 1) e := I.mono h (Nat.le_succ k)

theorem form_eq (h : I.Sound k e) : e.shape.form = .plain :=
  (Slot.admits_operand_iff _).1 (I.wellFormed h).1

theorem rule (h : I.Sound k e) : e.shape.WellFormed := (I.wellFormed h).2

theorem parts (h : I.Sound k e) : I.All k (e.shape.parts .operand) := I.parts h

/-- The property is about what an expression says. -/
theorem of_shape_eq (h : I.Sound k e) (hshape : e'.shape = e.shape) : I.Sound k e' := by
  refine I.move h hshape (by rw [hshape]) ?_
  rw [hshape]
  exact (I.wellFormed h).1

theorem withSpan (h : I.Sound k e) (span : Span) : I.Sound k (e.withSpan span) :=
  h.of_shape_eq rfl

/-- An operand may stand in every slot that takes no truth value. -/
theorem holds_in (h : I.Sound k e) {slot : Slot} (hslot : slot ≠ .condition) :
    I.holds k (.expr slot e) := by
  have hform := h.form_eq
  have hclauses : e.shape.form ≠ .clauses := by
    rw [hform]
    decide
  refine I.move h rfl (ExprShape.parts_eq hclauses _ _) ?_
  rw [hform]
  exact Slot.admits_plain hslot

/-- The truth value of an operand may stand in a condition. -/
theorem truth (h : I.Sound k e) (span : Span) :
    I.holds k (.expr .condition (Expr.truth e span)) := by
  have hadmits : Slot.condition.Admits .truth := by decide
  exact I.build ⟨hadmits, trivial⟩ rfl (all_singleton.2 h)

end Sound

/-- An expression may be replaced by one that says the same. -/
theorem holds_withSpan {slot : Slot} {e : Expr} (h : I.holds k (.expr slot e)) (span : Span) :
    I.holds k (.expr slot (e.withSpan span)) :=
  I.move h rfl rfl (I.wellFormed h).1

/-! ## Nodes within a budget -/

/-- A node is looked at, and a budget is enough for some levels and the arrays in the node. -/
structure Covers (I : Invariant) (d k : Nat) (n : Node) : Prop where
  node : I.node n
  budget : d + n.arrayDepth ≤ k

namespace Covers

theorem child (h : I.Covers d k n) (hc : c ∈ n.nodes role) : I.Covers d k c where
  node := I.child h.node hc
  budget := by
    have hle := Node.arrayDepth_le hc
    have hbudget := h.budget
    omega

theorem child? (h : I.Covers d k n) (hc : n.node? role = some c) : I.Covers d k c :=
  h.child (List.mem_of_head? hc)

theorem raise (h : I.Covers d k n) : I.Covers d (k + 1) n where
  node := h.node
  budget := Nat.le_succ_of_le h.budget

/-- An array takes one from the budget. -/
theorem array (h : I.Covers d k n) (hc : n.node? .array = some c) :
    ∃ j, k = j + 1 ∧ I.Covers d j c := by
  have hmem := List.mem_of_head? hc
  have hlt := Node.arrayDepth_lt hmem
  have hbudget := h.budget
  refine ⟨k - 1, by omega, I.child h.node hmem, by omega⟩

/-- A level takes one from the budget. -/
theorem level (h : I.Covers (d + 1) k n) : ∃ j, k = j + 1 ∧ I.Covers d j n := by
  have hbudget := h.budget
  refine ⟨k - 1, by omega, h.node, by omega⟩

end Covers

end Invariant

/-! ## Invariants about everything inside a part -/

/-- What a part says follows a rule, if it is an expression. -/
def Part.Follows (rule : ExprShape → Prop) : Part → Prop
  | .expr _ e => rule e.shape
  | .stmt _ => True

/-- Everything inside a part is well formed and follows a rule for its budget.  The rule looks at
lists and at operators, and a list has one more in its budget than what is inside its elements. -/
def Invariant.everywhere (scope : Scope → Prop) (node : Node → Prop)
    (child : ∀ {n c : Node} {role : Role}, node n → c ∈ n.nodes role → node c)
    (rule : Nat → ExprShape → Prop)
    (mono : ∀ {j k : Nat} {shape : ExprShape}, rule j shape → j ≤ k → rule k shape)
    (common : ∀ {k : Nat} {shape : ExprShape}, shape.isCommon = true → rule k shape)
    (list : ∀ {k : Nat} {elements : List Expr} {wrapped : Bool},
      (∀ x ∈ elements, ∀ q, x.part.Inside q → q.Follows (rule k)) →
      rule (k + 1) (.list elements wrapped))
    (binary : ∀ {k : Nat} {left right : Expr} {op : BinaryOp}, op.Takes scope node left right →
      rule k (.binary left op right)) : Invariant where
  scope := scope
  node := node
  holds k p := ∀ q, p.Inside q → q.WellFormed ∧ q.Follows (rule k)
  child := child
  mono := by
    intro j k p h hle q hq
    obtain ⟨hwell, hrule⟩ := h q hq
    refine ⟨hwell, ?_⟩
    cases q with
    | expr slot e => exact mono hrule hle
    | stmt x => trivial
  wellFormed h := (h _ .refl).1
  parts h := ((Part.forall_inside_iff _).1 h).2
  move := by
    intro k slot slot' e e' h hshape hparts hadmits
    obtain ⟨⟨hwell, hrule⟩, hinside⟩ := (Part.forall_inside_iff _).1 h
    rw [Part.forall_inside_iff, Part.WellFormed, Part.Follows, Part.parts, hparts]
    rw [hshape] at hadmits ⊢
    exact ⟨⟨⟨hadmits, hwell.2⟩, hrule⟩, hinside⟩
  build := by
    intro k p hwell hcommon hparts
    refine (Part.forall_inside_iff _).2 ⟨⟨hwell, ?_⟩, hparts⟩
    cases p with
    | expr slot e => exact common hcommon
    | stmt x => trivial
  list := by
    intro k slot e elements wrapped hshape hadmits helements
    have hinside : ∀ x ∈ elements, ∀ q, x.part.Inside q →
        q.WellFormed ∧ q.Follows (rule (k + 1)) := by
      intro x hx q hq
      obtain ⟨hwell, hrule⟩ := helements x hx q hq
      refine ⟨hwell, ?_⟩
      cases q with
      | expr slot e => exact mono hrule (Nat.le_succ k)
      | stmt x => trivial
    rw [Part.forall_inside_iff, Part.WellFormed, Part.Follows, Part.parts]
    rw [hshape] at hadmits ⊢
    refine ⟨⟨⟨hadmits, trivial⟩, list fun x hx q hq => (helements x hx q hq).2⟩, ?_⟩
    exact List.forall_mem_map.2 hinside
  binary := by
    intro k slot e left right op hshape hadmits hleft hright htakes
    rw [Part.forall_inside_iff, Part.WellFormed, Part.Follows, Part.parts]
    rw [hshape] at hadmits ⊢
    refine ⟨⟨⟨hadmits, trivial⟩, binary htakes⟩, ?_⟩
    exact List.forall_mem_cons.2 ⟨hleft, List.forall_mem_singleton.2 hright⟩

/-! ## Scopes -/

/-- A scope with some levels left keeps an invariant. -/
structure Scope.Maintains (s : Scope) (I : Invariant) (d : Nat) : Prop where
  scope : I.scope s
  expr : ∀ {k : Nat} {n : Node} {e : Expr}, I.Covers d k n → s.expr n = .ok e → I.Sound k e
  stmt : ∀ {k : Nat} {n : Node} {x : Stmt}, I.Covers d k n → s.stmt n = .ok x → I.SoundStmt k x

namespace Scope.Maintains

variable {α : Type} {I : Invariant} {s : Scope} {d k : Nat} {n : Node} {role : Role}

/-- A subtree that is lowered as an operand. -/
theorem exists_of_operand (hs : s.Maintains I d) (hn : I.Covers d k n)
    {f : Node → Expr → Lowered α} {a : α}
    (h : (s.node n role >>= fun c => s.expr c >>= f c) = .ok a) :
    ∃ c e, I.Sound k e ∧ f c e = .ok a := by
  obtain ⟨c, hc, h⟩ := exists_of_node h
  obtain ⟨e, he, h⟩ := Lowered.exists_of_bind h
  exact ⟨c, e, hs.expr (hn.child? hc) he, h⟩

/-- A subtree that is lowered as a statement. -/
theorem exists_of_body (hs : s.Maintains I d) (hn : I.Covers d k n)
    {f : Node → Stmt → Lowered α} {a : α}
    (h : (s.node n role >>= fun c => s.stmt c >>= f c) = .ok a) :
    ∃ c x, I.SoundStmt k x ∧ f c x = .ok a := by
  obtain ⟨c, hc, h⟩ := exists_of_node h
  obtain ⟨x, hx, h⟩ := Lowered.exists_of_bind h
  exact ⟨c, x, hs.stmt (hn.child? hc) hx, h⟩

end Scope.Maintains

end GroovyLowering
