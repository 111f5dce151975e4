import GroovyLowering.Proofs.Comparison.Unit
import GroovyLowering.Tree.Construct.Declaration
import Mathlib.Logic.Relation

/-!
# The layout of a tree does not matter

A tree is laid out in another way when tokens get other positions, when punctuation comes or goes,
and when children of different roles change places.  Each of these is an `Edit`, at the root or
inside a child, and `Relaid` is any number of edits one after the other.

* `Edit.nodes`, `Edit.words` and `Edit.has` say what one edit leaves as it was: the subtrees of
  every role, with at most one of them edited, and the category and text of every token that is not
  punctuation.
* `Relaid.nodes`, `Relaid.words` and `Relaid.has` follow for any number of edits, by induction.

This is what the comparison of two lowerings asks for, so both succeed with the same file or both
fail with the same error, places and quoted text aside (`lower_relaid`).
-/

namespace GroovyLowering

/-! ## Edits -/

/-- One change to the layout of a tree. -/
inductive Node.Edit : Node → Node → Prop where
  /-- A token gets another position. -/
  | move (kind : NodeKind) (front back : List (Role × Element)) (role : Role) (t : Token)
      (line column : Nat) :
    Edit ⟨kind, front ++ (role, .token t) :: back⟩
      ⟨kind, front ++ (role, .token { t with line, column }) :: back⟩
  /-- A punctuation token comes. -/
  | insert (kind : NodeKind) (front back : List (Role × Element)) (t : Token) :
    Edit ⟨kind, front ++ back⟩ ⟨kind, front ++ (.punct, .token t) :: back⟩
  /-- A punctuation token goes. -/
  | delete (kind : NodeKind) (front back : List (Role × Element)) (t : Token) :
    Edit ⟨kind, front ++ (.punct, .token t) :: back⟩ ⟨kind, front ++ back⟩
  /-- Children change places, and those of one role stay in their order. -/
  | reorder (kind : NodeKind) (children children' : List (Role × Element))
      (h : ∀ role, children.filter (fun c => c.1 = role) = children'.filter fun c => c.1 = role) :
    Edit ⟨kind, children⟩ ⟨kind, children'⟩
  /-- A subtree is changed. -/
  | inside (kind : NodeKind) (front back : List (Role × Element)) (role : Role) {c d : Node}
      (h : Edit c d) :
    Edit ⟨kind, front ++ (role, .node c) :: back⟩ ⟨kind, front ++ (role, .node d) :: back⟩

/-- Trees that differ by any number of changes to the layout. -/
def Node.Relaid : Node → Node → Prop := Relation.ReflTransGen Node.Edit

/-- The categories and texts of the tokens of a role. -/
def Node.words (n : Node) (role : Role) : List (TokenKind × String) :=
  (n.tokens role).map fun t => (t.kind, t.text)

namespace Node

variable {n m : Node} {role : Role}

/-! ## Queries and the order of the children -/

theorem nodes_eq_filter (n : Node) (role : Role) :
    n.nodes role = (n.children.filter fun c => c.1 = role).filterMap (Element.nodeIn? role) := by
  rw [nodes, List.filterMap_filter]
  refine List.filterMap_congr fun c _ => ?_
  obtain ⟨r, e⟩ := c
  cases e with
  | node m => by_cases h : r = role <;> simp [Element.nodeIn?, h]
  | token t => simp [Element.nodeIn?]

theorem tokens_eq_filter (n : Node) (role : Role) :
    n.tokens role = (n.children.filter fun c => c.1 = role).filterMap (Element.tokenIn? role) := by
  rw [tokens, List.filterMap_filter]
  refine List.filterMap_congr fun c _ => ?_
  obtain ⟨r, e⟩ := c
  cases e with
  | node m => simp [Element.tokenIn?]
  | token t => by_cases h : r = role <;> simp [Element.tokenIn?, h]

theorem has_eq_filter (n : Node) (role : Role) :
    n.has role = !(n.children.filter fun c => c.1 = role).isEmpty := by
  rw [has, Bool.eq_iff_iff]
  simp [List.filter_eq_nil_iff]

/-! ## What one edit leaves as it was -/

namespace Edit

theorem kind_eq (h : Edit n m) : n.kind = m.kind := by
  cases h <;> rfl

/-- The subtrees of a role are the same, but for one that may be edited itself. -/
theorem nodes (h : Edit n m) (role : Role) :
    List.Forall₂ Relaid (n.nodes role) (m.nodes role) := by
  have hrefl : ∀ ns : List Node, List.Forall₂ Relaid ns ns :=
    fun ns => List.forall₂_same.2 fun _ _ => Relation.ReflTransGen.refl
  cases h with
  | move =>
    simp only [Node.nodes, List.filterMap_append, List.filterMap_cons, Element.nodeIn?, hrefl]
  | insert =>
    simp only [Node.nodes, List.filterMap_append, List.filterMap_cons, Element.nodeIn?, hrefl]
  | delete =>
    simp only [Node.nodes, List.filterMap_append, List.filterMap_cons, Element.nodeIn?, hrefl]
  | reorder kind children children' h =>
    rw [nodes_eq_filter, nodes_eq_filter ⟨kind, children'⟩, h]
    exact hrefl _
  | inside kind front back r h =>
    simp only [Node.nodes, List.filterMap_append, List.filterMap_cons, Element.nodeIn?]
    by_cases hr : r = role
    · simp only [hr, if_true]
      exact List.rel_append (hrefl _) (.cons (Relation.ReflTransGen.single h) (hrefl _))
    · simp only [hr, if_false]
      exact hrefl _

/-- The tokens of a role say the same, punctuation aside. -/
theorem words (h : Edit n m) (hrole : role ≠ .punct) : n.words role = m.words role := by
  cases h with
  | move kind front back r t line column =>
    by_cases hr : r = role
    · simp [Node.words, tokens, Element.tokenIn?, hr]
    · simp [Node.words, tokens, Element.tokenIn?, hr]
  | insert => simp [Node.words, tokens, Element.tokenIn?, hrole.symm]
  | delete => simp [Node.words, tokens, Element.tokenIn?, hrole.symm]
  | reorder kind children children' h =>
    rw [Node.words, Node.words, tokens_eq_filter, tokens_eq_filter ⟨kind, children'⟩, h]
  | inside => simp [Node.words, tokens, List.filterMap_cons, Element.tokenIn?]

theorem has (h : Edit n m) (hrole : role ≠ .punct) : n.has role = m.has role := by
  have hpunct : (Role.punct == role) = false := beq_eq_false_iff_ne.2 hrole.symm
  cases h with
  | move => simp [Node.has]
  | insert => simp [Node.has, hpunct]
  | delete => simp [Node.has, hpunct]
  | reorder kind children children' h =>
    rw [has_eq_filter, has_eq_filter ⟨kind, children'⟩, h]
  | inside => simp [Node.has]

end Edit

/-! ## What any number of edits leaves as it was -/

namespace Relaid

theorem kind_eq (h : Relaid n m) : n.kind = m.kind := by
  induction h with
  | refl => rfl
  | tail _ hstep ih => exact ih.trans hstep.kind_eq

theorem nodes (h : Relaid n m) (role : Role) :
    List.Forall₂ Relaid (n.nodes role) (m.nodes role) := by
  have htrans : ∀ {xs ys zs : List Node}, List.Forall₂ Relaid xs ys → List.Forall₂ Relaid ys zs →
      List.Forall₂ Relaid xs zs := by
    intro xs ys zs hxy
    induction hxy generalizing zs with
    | nil => exact id
    | cons hxy _ ih =>
      intro hyz
      cases hyz with
      | cons hyz hrest => exact .cons (Relation.ReflTransGen.trans hxy hyz) (ih hrest)
  induction h with
  | refl => exact List.forall₂_same.2 fun _ _ => Relation.ReflTransGen.refl
  | tail _ hstep ih => exact htrans ih (hstep.nodes role)

theorem words (h : Relaid n m) (hrole : role ≠ .punct) : n.words role = m.words role := by
  induction h with
  | refl => rfl
  | tail _ hstep ih => exact ih.trans (hstep.words hrole)

theorem has (h : Relaid n m) (hrole : role ≠ .punct) : n.has role = m.has role := by
  induction h with
  | refl => rfl
  | tail _ hstep ih => exact ih.trans (hstep.has hrole)

end Relaid

end Node

/-! ## Lowering -/

/-- An error without its place and without the text it quotes. -/
def CompileError.withoutPlace : CompileError → CompileError
  | .structural complaint _ _ => .structural complaint "" .fileStart
  | .invalid complaint _ => .invalid complaint .fileStart
  | .relayed message _ => .relayed message .fileStart
  | .nestingTooDeep limit _ => .nestingTooDeep limit .fileStart

/-- A file without its spans, or an error without its place. -/
def Lowered.withoutPlaces : Lowered CompilationUnit → Lowered CompilationUnit
  | .ok unit => .ok unit.eraseSpans
  | .error e => .error e.withoutPlace

/-- Two lowerings of trees that differ in their layout, compared without any places. -/
def Comparison.relaid : Comparison where
  span _ := .fileStart
  quote _ := ""
  tree := Node.Relaid
  excuses _ := False
  kind_eq := Node.Relaid.kind_eq
  nodes := Node.Relaid.nodes
  tokens h _ hrole := by
    have hwords := h.words hrole
    rw [Node.words, Node.words, ← List.forall₂_eq_eq_eq, List.forall₂_map_left_iff,
      List.forall₂_map_right_iff] at hwords
    refine hwords.imp fun t u htu => ?_
    exact ⟨(Prod.mk.inj htu).1, (Prod.mk.inj htu).2, rfl⟩
  has_eq h _ hrole := h.has hrole
  spanOr_eq _ _ _ _ := rfl
  upTo_eq _ _ := rfl
  quote_eq _ := rfl

theorem Comparison.relaid_error (e : CompileError) :
    Comparison.relaid.error e = e.withoutPlace := by
  cases e <;> rfl

/-- **Layout does not matter.**  Trees that differ only in their layout are lowered to the same
file, or refused with the same error, up to places and quoted text. -/
theorem lower_relaid {n m : Node} (h : n.Relaid m) (options : LowerOptions)
    (diagnostics : List ParserDiagnostic) :
    (lower options ⟨n, diagnostics⟩).withoutPlaces =
      (lower options ⟨m, diagnostics⟩).withoutPlaces := by
  have hagree := Comparison.Agree.lower (C := .relaid) (.refl options) h diagnostics
  revert hagree
  cases lower options ⟨n, diagnostics⟩ with
  | ok unit =>
    cases lower options ⟨m, diagnostics⟩ with
    | ok unit' => exact fun hunits => congrArg Except.ok hunits
    | error e => exact fun hagree => hagree.elim
  | error e =>
    cases lower options ⟨m, diagnostics⟩ with
    | ok unit => exact fun hagree => hagree.elim
    | error e' =>
      rintro (hexcused | herrors)
      · exact hexcused.elim
      · rw [Comparison.relaid_error, Comparison.relaid_error] at herrors
        exact congrArg Except.error herrors

/-- A sum whose operator is moved, with a semicolon inside and its operands swapped in place but not
in role, is lowered to the same file. -/
theorem lower_relaid_sum :
    let sum := fun children : List (Role × Element) =>
      Node.mk .compilationUnit [(.statement, .node (.mk .expressionStatement
        [(.expression, .node (.mk .binary children))]))]
    let left : Role × Element := (.left, .node (Production.identifier "a"))
    let right : Role × Element := (.right, .node (Production.identifier "b"))
    let n := sum [left, (.operator, .token ⟨.operator, "+", 1, 2⟩), right]
    let m := sum [right, (.punct, .token ⟨.punct, ";", 1, 3⟩),
      (.operator, .token ⟨.operator, "+", 7, 0⟩), left]
    n.Relaid m ∧ (lower {} ⟨n, []⟩).withoutPlaces = (lower {} ⟨m, []⟩).withoutPlaces := by
  intro sum left right n m
  have hinside : ∀ {xs ys}, Node.Edit ⟨.binary, xs⟩ ⟨.binary, ys⟩ → (sum xs).Edit (sum ys) :=
    fun h => .inside _ [] [] _ (.inside _ [] [] _ h)
  have hmove := hinside (.move .binary [left] [right] .operator ⟨.operator, "+", 1, 2⟩ 7 0)
  have hinsert := hinside (.insert .binary [left, (.operator, .token ⟨.operator, "+", 7, 0⟩)]
    [right] ⟨.punct, ";", 1, 3⟩)
  have hreorder := hinside (.reorder .binary
    [left, (.operator, .token ⟨.operator, "+", 7, 0⟩), (.punct, .token ⟨.punct, ";", 1, 3⟩), right]
    [right, (.punct, .token ⟨.punct, ";", 1, 3⟩), (.operator, .token ⟨.operator, "+", 7, 0⟩), left]
    fun role => by cases role <;> rfl)
  have h : n.Relaid m := ((Relation.ReflTransGen.single hmove).tail hinsert).tail hreorder
  exact ⟨h, lower_relaid h {} []⟩

end GroovyLowering
