import GroovyLowering.Lower.Path
import GroovyLowering.Tree.Construct.Expression

/-!
# Expressions that are written back as they are

Some expressions are lowered to something else than they say: a sign is folded into a literal, a
command becomes a path, a closure is written on one line.  `Plain` is the grammar of those that are
not.  Its index is a number of levels that is enough for the nesting.

Elements, entries and links of a path do not count as levels.  So they are forms of their own
(`Item`, `Entry`, `Link`), which know their tree and the expressions inside it.

* Parentheses around parentheses are one pair in the lowered expression, so they are left out.
* A sign in front of a literal is folded, so its operand is no literal.
* One element that is spread is not the only one of a subscript, where it stands for a list.
* A call is written without the method `call` only directly behind what names a method
  (`CallsFit`): a variable, or a member that is no method pointer.
-/

namespace GroovyLowering.Source

open Production (identifier integer)

/-! ## Parts that are no level -/

/-- An element of a list or a subscript, which a star may spread. -/
structure Item where
  /-- Whether it is spread. -/
  spread : Bool
  /-- The expression. -/
  expr : Node

/-- The tree of an element. -/
def Item.node (i : Item) : Node :=
  if i.spread then Production.spreadElement i.expr else Production.element i.expr

/-- An entry of a map or of named arguments. -/
inductive Entry where
  /-- The form `label: value`. -/
  | labelled (label value : Node)
  /-- The form `word: value`. -/
  | keyword (word : String) (value : Node)
  /-- The form `*: value`. -/
  | spread (value : Node)

namespace Entry

/-- The tree of an entry. -/
def node : Entry → Node
  | labelled label value => Production.entry label value
  | keyword word value => Production.keywordEntry word value
  | spread value => Production.spreadEntry value

/-- The expressions in an entry. -/
def exprs : Entry → List Node
  | labelled label value => [label, value]
  | keyword _ value | spread value => [value]

end Entry

/-- An element of a path. -/
inductive Link where
  /-- A member behind an operator. -/
  | member (op name : String)
  /-- A field behind an operator and an at sign. -/
  | field (op name : String)
  /-- A subscript, which may give null on null. -/
  | subscript (safe : Bool) (items : List Item)
  /-- A call with values. -/
  | call (args : List Node)
  /-- A call with entries. -/
  | namedCall (entries : List Entry)

namespace Link

/-- The tree of an element of a path. -/
def node : Link → Node
  | member op name => Production.member op name
  | field op name => Production.field op name
  | subscript safe items => Production.subscript (if safe then "?[" else "[") (items.map Item.node)
  | call args => Production.call args
  | namedCall entries => Production.namedCall (entries.map Entry.node)

/-- The expressions in an element of a path. -/
def exprs : Link → List Node
  | member .. | field .. => []
  | subscript _ items => items.map Item.expr
  | call args => args
  | namedCall entries => entries.flatMap Entry.exprs

/-- Whether an element of a path has an operator that it may have, and does not consist of one
element that is spread. -/
def Allowed : Link → Prop
  | member op _ => op ∈ [".", "?.", "*.", ".&"]
  | field op _ => op ∈ [".", "?.", "*."]
  | subscript _ items => ∀ e, items ≠ [⟨true, e⟩]
  | call _ | namedCall _ => True

/-- Whether an element of a path is a call. -/
def IsCall : Link → Prop
  | call _ | namedCall _ => True
  | _ => False

/-- Whether a call behind an element of a path has it as its method. -/
def NamesMethod : Link → Prop
  | member op _ => op ≠ ".&"
  | _ => False

end Link

/-- Whether a call behind a primary has it as its method. -/
def NamesMethod (primary : Node) : Prop :=
  ∃ name, primary = identifier name ∧ name ≠ "void" ∧ name ∉ primitiveTypes

/-- Whether every call stands directly behind what names its method. -/
def CallsFit : Prop → List Link → Prop
  | _, [] => True
  | named, link :: links => (link.IsCall → named) ∧ CallsFit link.NamesMethod links

/-! ## Expressions -/

/-- The trees of expressions that are written back as they are, with the levels they may take. -/
inductive Plain : Nat → Node → Prop
  | identifier {left : Nat} (name : String) : Plain (left + 1) (identifier name)
  | boolean {left : Nat} (value : Bool) : Plain (left + 1) (Production.boolean value)
  | null {left : Nat} : Plain (left + 1) Production.null
  | thisReference {left : Nat} : Plain (left + 1) Production.thisReference
  | superReference {left : Nat} : Plain (left + 1) Production.superReference
  | integer {left : Nat} (value : Nat) : Plain (left + 1) (integer value.repr)
  | parenthesized {left : Nat} {e : Node} (h : Plain left e) (hkind : e.kind ≠ .parExpression) :
    Plain (left + 1) (Production.parenthesized e)
  | range {left : Nat} {a b : Node} {op : String} (ha : Plain left a) (hop : op ∈ ["..", "..<"])
    (hb : Plain left b) : Plain (left + 1) (Production.binary a op b)
  | binary {left : Nat} {a b : Node} {op : BinaryOp} (ha : Plain left a) (hop : op.bracket? = none)
    (hb : Plain left b) : Plain (left + 1) (Production.binary a op.text b)
  | assignment {left : Nat} {name : String} {op : BinaryOp} {e : Node}
    (hname : name ∉ ["this", "super"]) (hop : op.isAssignment) (h : Plain left e) :
    Plain (left + 1) (Production.assignment (identifier name) op.text e)
  | ternary {left : Nat} {c a b : Node} (hc : Plain left c) (ha : Plain left a)
    (hb : Plain left b) : Plain (left + 1) (Production.ternary c a b)
  | elvis {left : Nat} {a b : Node} (ha : Plain left a) (hb : Plain left b) :
    Plain (left + 1) (Production.elvis a b)
  | stepAfter {left : Nat} {e : Node} (h : Plain left e) (step : Step) :
    Plain (left + 1) (Production.stepAfter e step.text)
  | stepBefore {left : Nat} {e : Node} (step : Step) (h : Plain left e) :
    Plain (left + 1) (Production.unary step.text e)
  | sign {left : Nat} {op : String} {e : Node} (hop : op ∈ ["+", "-"]) (h : Plain left e)
    (hkind : e.kind ≠ .literal) : Plain (left + 1) (Production.unary op e)
  | negation {left : Nat} {op : String} {e : Node} (hop : op ∈ ["!", "~"]) (h : Plain left e) :
    Plain (left + 1) (Production.negation op e)
  | cast {left : Nat} {e : Node} (type : List String) (h : Plain left e) :
    Plain (left + 1) (Production.cast (Production.classType type) e)
  | typeTest {left : Nat} {e : Node} {op : String} (h : Plain left e)
    (hop : op ∈ ["as", "instanceof"]) (type : List String) :
    Plain (left + 1) (Production.typeTest e op (Production.classType type))
  | list {left : Nat} {items : List Item} (h : ∀ i ∈ items, Plain left i.expr) :
    Plain (left + 1) (Production.list (items.map Item.node))
  | map {left : Nat} {entries : List Entry} (h : ∀ e ∈ entries, ∀ x ∈ e.exprs, Plain left x) :
    Plain (left + 1) (Production.map (entries.map Entry.node))
  | path {left : Nat} {primary : Node} {links : List Link} (hprimary : Plain left primary)
    (hne : links ≠ []) (hallowed : ∀ l ∈ links, l.Allowed)
    (hfit : CallsFit (NamesMethod primary) links)
    (h : ∀ l ∈ links, ∀ x ∈ l.exprs, Plain left x) :
    Plain (left + 1) (Production.path primary (links.map Link.node))

/-! ## Levels -/

/-- Every expression takes a level. -/
theorem Plain.exists_succ {left : Nat} {n : Node} (h : Plain left n) : ∃ k, left = k + 1 := by
  cases h <;> exact ⟨_, rfl⟩

/-- A level more does no harm. -/
theorem Plain.succ {left : Nat} {n : Node} (h : Plain left n) : Plain (left + 1) n := by
  induction h with
  | identifier name => exact .identifier name
  | boolean value => exact .boolean value
  | null => exact .null
  | thisReference => exact .thisReference
  | superReference => exact .superReference
  | integer value => exact .integer value
  | parenthesized _ hkind ih => exact .parenthesized ih hkind
  | range _ hop _ iha ihb => exact .range iha hop ihb
  | binary _ hop _ iha ihb => exact .binary iha hop ihb
  | assignment hname hop _ ih => exact .assignment hname hop ih
  | ternary _ _ _ ihc iha ihb => exact .ternary ihc iha ihb
  | elvis _ _ iha ihb => exact .elvis iha ihb
  | stepAfter _ step ih => exact .stepAfter ih step
  | stepBefore step _ ih => exact .stepBefore step ih
  | sign hop _ hkind ih => exact .sign hop ih hkind
  | negation hop _ ih => exact .negation hop ih
  | cast type _ ih => exact .cast type ih
  | typeTest _ hop type ih => exact .typeTest ih hop type
  | list _ ih => exact .list ih
  | map _ ih => exact .map ih
  | path _ hne hallowed hfit _ ihprimary ih => exact .path ihprimary hne hallowed hfit ih

theorem Plain.mono {left more : Nat} {n : Node} (h : Plain left n) (hle : left ≤ more) :
    Plain more n := by
  induction hle with
  | refl => exact h
  | step _ ih => exact ih.succ

end GroovyLowering.Source
