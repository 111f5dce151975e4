import GroovyLowering.Proofs.Layout
import GroovyLowering.Proofs.Written.Grammar

/-!
# A plain expression is flat

No production of a plain expression puts its children on lines of their own.  So laying it out
writes its text on one line, with nothing but spaces added.
-/

namespace GroovyLowering.Source

/-! ## Parts -/

theorem Item.isFlat_node (i : Item) : i.node.isFlat = i.expr.isFlat := by
  obtain ⟨spread, e⟩ := i
  cases spread <;>
    simp [Item.node, Production.element, Production.spreadElement, NodeKind.isStacked]

theorem Entry.isFlat_node (e : Entry) : e.node.isFlat = e.exprs.all Node.isFlat := by
  cases e <;>
    simp [Entry.node, Entry.exprs, Production.entry, Production.keywordEntry,
      Production.spreadEntry, Node.keyword, NodeKind.isStacked]

theorem Link.isFlat_node (l : Link) : l.node.isFlat = l.exprs.all Node.isFlat := by
  cases l with
  | member | field =>
    simp [Link.node, Link.exprs, Production.member, Production.field, Production.namePart,
      Node.operator, NodeKind.isStacked]
  | subscript safe items =>
    simp [Link.node, Link.exprs, Production.subscript, Node.operator, Node.withList,
      NodeKind.isStacked, Item.isFlat_node, Function.comp_def]
  | call args =>
    cases args <;>
      simp [Link.node, Link.exprs, Production.call, Production.arguments, Production.argumentList,
        Production.element, Node.withNode?, Node.withList, NodeKind.isStacked, Function.comp_def]
  | namedCall entries =>
    simp [Link.node, Link.exprs, Production.namedCall, Production.namedArguments,
      Production.namedArgumentList, Node.withList, NodeKind.isStacked, Entry.isFlat_node,
      Function.comp_def, List.all_flatMap]

/-! ## Types and expressions -/

theorem isFlat_classType (parts : List String) : (Production.classType parts).isFlat = true := by
  have hname : (Production.qualifiedClassName parts).isFlat = true := by
    rw [Production.qualifiedClassName]
    induction parts using List.reverseRecOn with
    | nil => rfl
    | append_singleton parts part ih =>
      by_cases hparts : parts = []
      · subst hparts
        rfl
      · rw [Production.dotted_concat _ parts part hparts]
        simpa using ih
  simp [Production.classType, hname, NodeKind.isStacked]

theorem Plain.isFlat {left : Nat} {n : Node} (h : Plain left n) : n.isFlat = true := by
  induction h with
  | identifier | boolean | null | thisReference | superReference | integer => rfl
  | parenthesized _ _ ih => simp [Production.parenthesized, ih, NodeKind.isStacked]
  | range _ _ _ iha ihb | binary _ _ _ iha ihb =>
    simp [Production.binary, Node.operator, iha, ihb, NodeKind.isStacked]
  | assignment _ _ _ ih =>
    simp [Production.assignment, Production.identifier, Node.operator, ih, NodeKind.isStacked]
  | ternary _ _ _ ihc iha ihb =>
    simp [Production.ternary, ihc, iha, ihb, NodeKind.isStacked]
  | elvis _ _ iha ihb => simp [Production.elvis, Node.operator, iha, ihb, NodeKind.isStacked]
  | stepAfter _ _ ih => simp [Production.stepAfter, Node.operator, ih, NodeKind.isStacked]
  | stepBefore _ _ ih | sign _ _ _ ih =>
    simp [Production.unary, Node.operator, ih, NodeKind.isStacked]
  | negation _ _ ih => simp [Production.negation, Node.operator, ih, NodeKind.isStacked]
  | cast type _ ih => simp [Production.cast, isFlat_classType, ih, NodeKind.isStacked]
  | typeTest _ _ type ih =>
    simp [Production.typeTest, Node.operator, isFlat_classType, ih, NodeKind.isStacked]
  | list _ ih =>
    simpa [Production.list, Node.withList, NodeKind.isStacked, Item.isFlat_node] using ih
  | @map _ entries _ ih =>
    cases entries with
    | nil => rfl
    | cons entry entries =>
      simpa [Production.map, Node.withList, NodeKind.isStacked, Entry.isFlat_node] using ih
  | path _ _ _ _ _ ihprimary ih =>
    simpa [Production.path, NodeKind.isStacked, ihprimary, Link.isFlat_node] using ih

end GroovyLowering.Source
