import GroovyLowering.Lower.Block

/-!
# Lowering switch statements

The labels of a switch come in groups, and the labels of a group share its statements.  In the
result every case label is a case of its own, in order.  Only the last label of a group gets the
statements; a case in front of it is left empty and falls through to it.  A default label stands
for the statements of its group wherever it is in the group.

There is at most one default label, and no case behind it.
-/

namespace GroovyLowering

/-- A label of a switch with what it stands for. -/
inductive SwitchItem where
  /-- A case. -/
  | case (c : SwitchCase)
  /-- The default, with its statements. -/
  | fallback (body : Stmt)

namespace SwitchItem

/-- The case that an item is. -/
def case? : SwitchItem → Option SwitchCase
  | .case c => some c
  | .fallback _ => none

/-- The statements of the default that an item is. -/
def fallback? : SwitchItem → Option Stmt
  | .case _ => none
  | .fallback body => some body

/-- Whether an item is a case. -/
def isCase (item : SwitchItem) : Bool := item.case?.isSome

end SwitchItem

namespace Scope

/-- Lower a label of a group, given the statements of the group and the place of its cases. -/
def switchLabel (s : Scope) (body : Stmt) (caseSpan : Span) (isLast : Bool) (label : Node) :
    Lowered SwitchItem := do
  let keyword ← s.token label .keyword
  if keyword.text = "case" then
    let value ← s.expr (← s.node label .expression)
    return .case { value, body := if isLast then body else .nothing caseSpan, span := caseSpan }
  else if keyword.text = "default" then return .fallback body
  else s.refuse label .unsupportedSwitchLabel

/-- Lower the labels of a group in order. -/
def switchLabels (s : Scope) (body : Stmt) (caseSpan : Span) : List Node → Lowered (List SwitchItem)
  | [] => .ok []
  | label :: rest => do
    let item ← s.switchLabel body caseSpan rest.isEmpty label
    return item :: (← s.switchLabels body caseSpan rest)

/-- Lower a group.  Its cases have the place of the keyword of its first label. -/
def switchGroup (s : Scope) (group : Node) : Lowered (List SwitchItem) :=
  match group.nodes .label with
  | [] => s.refuse group .groupWithoutLabel
  | first :: rest => do
    let caseSpan := (← s.token first .keyword).span
    let body ← s.body group group.span
    s.switchLabels body caseSpan (first :: rest)

/-- The statements of the default, given all labels of a switch in order. -/
def switchDefault (span : Span) (items : List SwitchItem) : Lowered Stmt :=
  match items.filterMap SwitchItem.fallback? with
  | [] => .ok (.nothing span)
  | [body] =>
    if items.getLast?.any SwitchItem.isCase then .error (.invalid .defaultNotLast body.span)
    else .ok body
  | body :: _ :: _ => .error (.invalid .duplicateDefault body.span)

/-- Lower a switch. -/
def switch (s : Scope) (n : Node) : Lowered Stmt := do
  let subject ← s.expr (← s.node n .condition)
  let items := (← (n.nodes .group).mapM s.switchGroup).flatten
  let otherwise ← switchDefault n.span items
  return { shape := .switch subject (items.filterMap SwitchItem.case?) otherwise, span := n.span }

end Scope

end GroovyLowering
