import GroovyLowering.Lower.Level
import GroovyLowering.Proofs.Construct
import GroovyLowering.Proofs.Step
import GroovyLowering.Tree.Construct.Statement

/-!
# The cases of a switch

The labels of a switch share the statements of their group, and a lowered switch has one case for
each label.  Its cases fall through, so what is done at a label is the first body behind it that is
not empty (`effectiveBody`).  A lowered switch does at every label what the group of the label says
(`Scope.SwitchReads.statement_flattens`).

Only the last label of a group is given the statements.  That no label falls through into another
group rests on the statements being a block, which is not empty even where it holds nothing: the
search ends in the group that it starts in.  `Flattens` keeps this for every label, and it is put
together group by group (`Flattens.append`).
-/

namespace GroovyLowering

/-! ## Labels -/

/-- A label of a switch. -/
structure SwitchLabel where
  /-- The value of a case; the default has none. -/
  value : Option Expr
  /-- The statements of its group. -/
  body : Stmt

/-- Whether a label is the default. -/
def SwitchLabel.isDefault (label : SwitchLabel) : Bool := label.value.isNone

/-- Labels that share their statements. -/
structure SwitchGroup where
  /-- The values of the labels, in order. -/
  values : List (Option Expr)
  /-- The statements. -/
  body : Stmt

/-- The labels of a group. -/
def SwitchGroup.labels (group : SwitchGroup) : List SwitchLabel :=
  group.values.map fun value => ⟨value, group.body⟩

/-- The first statement that is not empty. -/
def firstBody? (bodies : List Stmt) : Option Stmt := bodies.find? fun body => !body.isNothing

/-- What is done at the first of some cases, or by default. -/
def effectiveBody (cases : List SwitchCase) (otherwise : Stmt) : Stmt :=
  (firstBody? (cases.map SwitchCase.body)).getD otherwise

theorem firstBody?_cons (body : Stmt) (rest : List Stmt) :
    firstBody? (body :: rest) = if body.isNothing then firstBody? rest else some body := by
  rw [firstBody?, List.find?_cons]
  cases body.isNothing <;> rfl

theorem effectiveBody_cons (c : SwitchCase) (cases : List SwitchCase) (otherwise : Stmt) :
    effectiveBody (c :: cases) otherwise =
      if c.body.isNothing then effectiveBody cases otherwise else c.body := by
  rw [effectiveBody, List.map_cons, firstBody?_cons]
  split <;> rfl

/-! ## Reading a switch -/

/-- A label has a keyword of its own, and a case has a value. -/
inductive Scope.LabelReads (s : Scope) (label : Node) : Option Expr → Prop where
  | case {keyword : Token} {c : Node} {value : Expr}
      (hkeyword : label.token? .keyword = some keyword) (htext : keyword.text = "case")
      (hnode : label.node? .expression = some c) (hvalue : s.expr c = .ok value) :
      LabelReads s label (some value)
  | default {keyword : Token} (hkeyword : label.token? .keyword = some keyword)
      (htext : keyword.text = "default") : LabelReads s label none

/-- A group has at least one label, and its labels and its statements can be lowered. -/
structure Scope.GroupReads (s : Scope) (n : Node) (group : SwitchGroup) : Prop where
  labelled : n.nodes .label ≠ []
  values : List.Forall₂ s.LabelReads (n.nodes .label) group.values
  body : s.body n n.span = .ok group.body

/-- A switch whose subject and groups can be lowered. -/
structure Scope.SwitchReads (s : Scope) (n : Node) (subject : Expr) (groups : List SwitchGroup) :
    Prop where
  kind : n.kind = .switchStatement
  condition : ∃ c, n.node? .condition = some c ∧ s.expr c = .ok subject
  groups : List.Forall₂ s.GroupReads (n.nodes .group) groups

/-! ## Items that labels become -/

namespace SwitchItem

/-- The statements of an item. -/
def body : SwitchItem → Stmt
  | .case c => c.body
  | .fallback body => body

end SwitchItem

/-- The item of a label has its value.  Only the default must have its statements as well. -/
inductive SwitchLabel.IsItem : SwitchLabel → SwitchItem → Prop where
  | case (c : SwitchCase) (body : Stmt) : IsItem ⟨some c.value, body⟩ (.case c)
  | default (body : Stmt) : IsItem ⟨none, body⟩ (.fallback body)

/-- Every label has an item, and the first item from there on that is not empty has the statements
of the label. -/
inductive Flattens : List SwitchLabel → List SwitchItem → Prop where
  | nil : Flattens [] []
  | cons {label : SwitchLabel} {item : SwitchItem} {labels : List SwitchLabel}
      {items : List SwitchItem} (hitem : label.IsItem item) (hrest : Flattens labels items)
      (hbody : firstBody? ((item :: items).map SwitchItem.body) = some label.body) :
      Flattens (label :: labels) (item :: items)

/-- Only the last of some items may be the default. -/
inductive Closes (otherwise : Stmt) : List SwitchItem → Prop where
  | nil : Closes otherwise []
  | last : Closes otherwise [.fallback otherwise]
  | cons (c : SwitchCase) {items : List SwitchItem} (hrest : Closes otherwise items) :
      Closes otherwise (.case c :: items)

namespace Closes

variable {otherwise : Stmt} {items : List SwitchItem}

theorem tail {item : SwitchItem} (h : Closes otherwise (item :: items)) :
    Closes otherwise items := by
  cases h with
  | last => exact .nil
  | cons _ hrest => exact hrest

/-- What is searched for among the items is found among the cases, or else it is the default. -/
theorem effectiveBody_eq (h : Closes otherwise items) {body : Stmt}
    (hbody : firstBody? (items.map SwitchItem.body) = some body) :
    effectiveBody (items.filterMap SwitchItem.case?) otherwise = body := by
  induction h with
  | nil => cases hbody
  | last =>
    have hmem := List.mem_of_find?_eq_some hbody
    exact (List.mem_singleton.1 hmem).symm
  | @cons c items _ ih =>
    rw [List.map_cons, firstBody?_cons, SwitchItem.body] at hbody
    show effectiveBody (c :: items.filterMap SwitchItem.case?) otherwise = body
    rw [effectiveBody_cons]
    split at hbody
    · next hnothing => rw [if_pos hnothing, ih hbody]
    · next hsomething =>
      rw [if_neg hsomething]
      exact Option.some.inj hbody

theorem of_no_fallback (otherwise : Stmt) (h : items.filterMap SwitchItem.fallback? = []) :
    Closes otherwise items := by
  induction items with
  | nil => exact .nil
  | cons item items ih =>
    cases item with
    | case c => exact .cons c (ih h)
    | fallback body => cases h

theorem getLast?_any_isCase (h : items.filterMap SwitchItem.fallback? = []) (hne : items ≠ []) :
    items.getLast?.any SwitchItem.isCase = true := by
  have hlast := List.filterMap_eq_nil_iff.1 h (items.getLast hne) (List.getLast_mem hne)
  rw [List.getLast?_eq_some_getLast hne, Option.any_some]
  cases hitem : items.getLast hne with
  | case c => rfl
  | fallback body =>
    rw [hitem] at hlast
    cases hlast

theorem of_one_fallback (h : items.filterMap SwitchItem.fallback? = [otherwise])
    (hlast : items.getLast?.any SwitchItem.isCase = false) : Closes otherwise items := by
  induction items with
  | nil => cases h
  | cons item items ih =>
    cases item with
    | case c =>
      refine .cons c (ih h ?_)
      cases items with
      | nil => cases h
      | cons second items => rwa [List.getLast?_cons_cons] at hlast
    | fallback body =>
      obtain ⟨rfl, hnone⟩ := List.cons.inj h
      cases items with
      | nil => exact .last
      | cons second items =>
        rw [List.getLast?_cons_cons, getLast?_any_isCase hnone (List.cons_ne_nil _ _)] at hlast
        cases hlast

theorem of_switchDefault {span : Span} (h : Scope.switchDefault span items = .ok otherwise) :
    Closes otherwise items := by
  rw [Scope.switchDefault] at h
  split at h
  · next hnone => exact of_no_fallback otherwise hnone
  · next body hone =>
    split at h
    · cases h
    · next hlast =>
      cases h
      exact of_one_fallback hone (Bool.eq_false_iff.2 hlast)
  · cases h

end Closes

namespace Flattens

variable {labels labels' : List SwitchLabel} {items items' : List SwitchItem}

/-- The search for statements ends in the group, so what comes behind it changes nothing. -/
theorem append (h : Flattens labels items) (h' : Flattens labels' items') :
    Flattens (labels ++ labels') (items ++ items') := by
  induction h with
  | nil => exact h'
  | @cons label item labels items hitem _ hbody ih =>
    refine .cons hitem ih ?_
    have hsearch : firstBody? (((item :: items) ++ items').map SwitchItem.body) =
        (firstBody? ((item :: items).map SwitchItem.body)).or
          (firstBody? (items'.map SwitchItem.body)) := by
      rw [List.map_append]
      exact List.find?_append
    exact hsearch.trans (by rw [hbody, Option.some_or])

theorem fallbacks_eq (h : Flattens labels items) :
    items.filterMap SwitchItem.fallback? =
      (labels.filter SwitchLabel.isDefault).map SwitchLabel.body := by
  induction h with
  | nil => rfl
  | cons hitem _ _ ih =>
    cases hitem with
    | case c body => exact ih
    | default body => exact congrArg (body :: ·) ih

theorem values_eq (h : Flattens labels items) :
    (items.filterMap SwitchItem.case?).map SwitchCase.value =
      labels.filterMap SwitchLabel.value := by
  induction h with
  | nil => rfl
  | cons hitem _ _ ih =>
    cases hitem with
    | case c body => exact congrArg (c.value :: ·) ih
    | default body => exact ih

theorem endsInCase_eq (h : Flattens labels items) (hne : labels ≠ []) :
    items.getLast?.any SwitchItem.isCase = !labels.getLast?.any SwitchLabel.isDefault := by
  induction h with
  | nil => exact absurd rfl hne
  | cons hitem hrest _ ih =>
    cases hrest with
    | nil => cases hitem <;> rfl
    | cons => simpa only [List.getLast?_cons_cons] using ih (List.cons_ne_nil _ _)

/-- The default is found by the labels alone. -/
theorem switchDefault_eq (h : Flattens labels items) (span : Span) :
    Scope.switchDefault span items =
      match labels.filter SwitchLabel.isDefault with
      | [] => .ok (.nothing span)
      | [label] =>
        if labels.getLast?.any SwitchLabel.isDefault then .ok label.body
        else .error (.invalid .defaultNotLast label.body.span)
      | label :: _ :: _ => .error (.invalid .duplicateDefault label.body.span) := by
  rw [Scope.switchDefault, h.fallbacks_eq]
  cases hdefaults : labels.filter SwitchLabel.isDefault with
  | nil => rfl
  | cons label others =>
    have hne : labels ≠ [] := by
      rintro rfl
      cases hdefaults
    cases others with
    | nil =>
      simp only [List.map_cons, List.map_nil, h.endsInCase_eq hne]
      cases labels.getLast?.any SwitchLabel.isDefault <;> rfl
    | cons other others => rfl

theorem exists_switchDefault_iff (h : Flattens labels items) (span : Span) :
    (∃ otherwise, Scope.switchDefault span items = .ok otherwise) ↔
      labels.countP SwitchLabel.isDefault = 0 ∨
        labels.countP SwitchLabel.isDefault = 1 ∧ labels.getLast?.any SwitchLabel.isDefault := by
  rw [h.switchDefault_eq, List.countP_eq_length_filter]
  rcases labels.filter SwitchLabel.isDefault with _ | ⟨label, _ | ⟨other, others⟩⟩
  · simp
  · cases labels.getLast?.any SwitchLabel.isDefault <;> simp
  · simp

theorem switchDefault_of_several (h : Flattens labels items) (span : Span)
    (hdefaults : 1 < labels.countP SwitchLabel.isDefault) :
    ∃ place, Scope.switchDefault span items = .error (.invalid .duplicateDefault place) := by
  rw [List.countP_eq_length_filter] at hdefaults
  rw [h.switchDefault_eq]
  rcases hfilter : labels.filter SwitchLabel.isDefault with _ | ⟨label, _ | ⟨other, others⟩⟩
  · rw [hfilter] at hdefaults
    cases hdefaults
  · rw [hfilter] at hdefaults
    exact absurd hdefaults (Nat.lt_irrefl 1)
  · exact ⟨_, rfl⟩

theorem switchDefault_of_not_last (h : Flattens labels items) (span : Span)
    (hdefaults : labels.countP SwitchLabel.isDefault = 1)
    (hlast : ¬labels.getLast?.any SwitchLabel.isDefault) :
    ∃ place, Scope.switchDefault span items = .error (.invalid .defaultNotLast place) := by
  rw [List.countP_eq_length_filter, List.length_eq_one_iff] at hdefaults
  obtain ⟨label, hfilter⟩ := hdefaults
  rw [h.switchDefault_eq, hfilter]
  exact ⟨_, if_neg hlast⟩

theorem isNothing_of_switchDefault (h : Flattens labels items) {span : Span} {otherwise : Stmt}
    (hdefaults : labels.countP SwitchLabel.isDefault = 0)
    (hotherwise : Scope.switchDefault span items = .ok otherwise) : otherwise.isNothing = true := by
  rw [List.countP_eq_length_filter, List.length_eq_zero_iff] at hdefaults
  rw [h.switchDefault_eq, hdefaults] at hotherwise
  cases hotherwise
  rfl

/-- Where only the last item may be the default, the cases of the items have the right effect. -/
theorem effectiveBody_eq {otherwise : Stmt} {label : SwitchLabel} {after : List SwitchLabel}
    (before : List SwitchLabel) (h : Flattens (before ++ label :: after) items)
    (hcloses : Closes otherwise items) :
    effectiveBody ((items.filterMap SwitchItem.case?).drop
      (before.filterMap SwitchLabel.value).length) otherwise = label.body := by
  induction before generalizing items with
  | nil =>
    cases h with
    | cons _ _ hbody => exact hcloses.effectiveBody_eq hbody
  | cons first before ih =>
    cases h with
    | cons hitem hrest _ =>
      have hbehind := ih hrest hcloses.tail
      cases hitem with
      | case c body => exact hbehind
      | default body => exact hbehind

end Flattens

/-! ## Lowering groups -/

namespace Scope

variable {s : Scope} {n : Node}

theorem isNothing_of_body {fallback : Span} {body : Stmt} (h : s.body n fallback = .ok body) :
    body.isNothing = false := by
  rw [Scope.body] at h
  split at h
  · obtain ⟨xs, _, h⟩ := Lowered.exists_of_bind h
    cases h
    rfl
  · cases h
    rfl

theorem LabelReads.switchLabel_eq {label : Node} {value : Option Expr}
    (h : s.LabelReads label value) (body : Stmt) (caseSpan : Span) (isLast : Bool) :
    s.switchLabel body caseSpan isLast label =
      match value with
      | some value =>
        .ok (.case { value, body := if isLast then body else .nothing caseSpan, span := caseSpan })
      | none => .ok (.fallback body) := by
  cases h with
  | case hkeyword htext hnode hvalue =>
    rw [switchLabel, bind_token hkeyword, if_pos htext, bind_node hnode,
      Lowered.bind_of_ok hvalue]
    rfl
  | default hkeyword htext =>
    rw [switchLabel, bind_token hkeyword, if_neg (by rw [htext]; decide), if_pos htext]
    rfl

theorem exists_switchLabels {body : Stmt} (hbody : body.isNothing = false) (caseSpan : Span)
    {labels : List Node} {values : List (Option Expr)}
    (h : List.Forall₂ s.LabelReads labels values) :
    ∃ items, s.switchLabels body caseSpan labels = .ok items ∧
      Flattens (values.map fun value => ⟨value, body⟩) items := by
  induction h with
  | nil => exact ⟨[], rfl, .nil⟩
  | @cons label value labels values hlabel hrest ih =>
    obtain ⟨items, hitems, hflattens⟩ := ih
    have hlabel := hlabel.switchLabel_eq body caseSpan labels.isEmpty
    cases value with
    | none =>
      refine ⟨.fallback body :: items, ?_, .cons (.default body) hflattens ?_⟩
      · rw [switchLabels, Lowered.bind_of_ok hlabel, Lowered.bind_of_ok hitems]
        rfl
      · rw [List.map_cons, firstBody?_cons, SwitchItem.body, if_neg (by simp [hbody])]
    | some value =>
      let c : SwitchCase :=
        { value, body := if labels.isEmpty then body else .nothing caseSpan, span := caseSpan }
      refine ⟨.case c :: items, ?_, .cons (.case c body) hflattens ?_⟩
      · rw [switchLabels, Lowered.bind_of_ok hlabel, Lowered.bind_of_ok hitems]
        rfl
      · rw [List.map_cons, firstBody?_cons]
        cases hrest with
        | nil => exact if_neg (by simp [SwitchItem.body, c, hbody])
        | cons =>
          -- the case is empty, and the label behind it has the statements of the same group
          cases hflattens with
          | cons _ _ hsearch => exact hsearch

theorem GroupReads.exists_switchGroup {group : SwitchGroup} (h : s.GroupReads n group) :
    ∃ items, s.switchGroup n = .ok items ∧ Flattens group.labels items := by
  have hvalues := h.values
  rw [switchGroup]
  split
  · next hnone => exact absurd hnone h.labelled
  · next first rest hlabels =>
    rw [hlabels] at hvalues
    obtain ⟨keyword, hkeyword⟩ : ∃ keyword, first.token? .keyword = some keyword := by
      obtain ⟨_, _, hfirst, _⟩ := List.forall₂_cons_left_iff.1 hvalues
      cases hfirst with
      | case hkeyword _ _ _ => exact ⟨_, hkeyword⟩
      | default hkeyword _ => exact ⟨_, hkeyword⟩
    rw [bind_token hkeyword, Lowered.bind_of_ok h.body]
    exact exists_switchLabels (isNothing_of_body h.body) keyword.span hvalues

theorem exists_switchGroups {ns : List Node} {groups : List SwitchGroup}
    (h : List.Forall₂ s.GroupReads ns groups) :
    ∃ lists, ns.mapM s.switchGroup = .ok lists ∧
      Flattens (groups.flatMap SwitchGroup.labels) lists.flatten := by
  induction h with
  | nil => exact ⟨[], rfl, .nil⟩
  | cons hgroup _ ih =>
    obtain ⟨items, hitems, hflattens⟩ := hgroup.exists_switchGroup
    obtain ⟨lists, hlists, hrest⟩ := ih
    refine ⟨items :: lists, ?_, hflattens.append hrest⟩
    rw [List.mapM_cons, Lowered.bind_of_ok hitems, Lowered.bind_of_ok hlists]
    rfl

/-- The labels of a switch are flattened to items, and then the default is looked at. -/
theorem SwitchReads.exists_items {subject : Expr} {groups : List SwitchGroup}
    (h : s.SwitchReads n subject groups) :
    ∃ items, Flattens (groups.flatMap SwitchGroup.labels) items ∧
      s.statement n = (switchDefault n.span items).map fun otherwise =>
        { shape := .switch subject (items.filterMap SwitchItem.case?) otherwise
          span := n.span } := by
  obtain ⟨c, hc, hsubject⟩ := h.condition
  obtain ⟨lists, hlists, hflattens⟩ := exists_switchGroups h.groups
  refine ⟨lists.flatten, hflattens, ?_⟩
  rw [statement, h.kind]
  show s.switch n = _
  rw [switch, bind_node hc, Lowered.bind_of_ok hsubject, Lowered.bind_of_ok hlists]
  rfl

/-- **A lowered switch does at every label what the group of the label says.**  A switch is lowered
if there is no default label, or one that is the last label.  It has the cases of the labels in
order, and at each label, falling through from there, the first statements that are not empty are
those of its group.  Several default labels and a label behind the default one are refused. -/
theorem SwitchReads.statement_flattens {subject : Expr} {groups : List SwitchGroup}
    (h : s.SwitchReads n subject groups) :
    let labels := groups.flatMap SwitchGroup.labels
    ((∃ x, s.statement n = .ok x) ↔
      labels.countP SwitchLabel.isDefault = 0 ∨
        labels.countP SwitchLabel.isDefault = 1 ∧ labels.getLast?.any SwitchLabel.isDefault) ∧
    (1 < labels.countP SwitchLabel.isDefault →
      ∃ place, s.statement n = .error (.invalid .duplicateDefault place)) ∧
    (labels.countP SwitchLabel.isDefault = 1 → ¬labels.getLast?.any SwitchLabel.isDefault →
      ∃ place, s.statement n = .error (.invalid .defaultNotLast place)) ∧
    ∀ x, s.statement n = .ok x → ∃ cases otherwise,
      x.shape = .switch subject cases otherwise ∧
      cases.map SwitchCase.value = labels.filterMap SwitchLabel.value ∧
      (labels.countP SwitchLabel.isDefault = 0 → otherwise.isNothing) ∧
      ∀ before label after, labels = before ++ label :: after →
        effectiveBody (cases.drop (before.filterMap SwitchLabel.value).length) otherwise =
          label.body := by
  intro labels
  obtain ⟨items, hflattens, hstatement⟩ := h.exists_items
  rw [hstatement]
  refine ⟨?_, ?_, ?_, ?_⟩
  · rw [← hflattens.exists_switchDefault_iff n.span]
    cases switchDefault n.span items <;> simp [Except.map]
  · intro hdefaults
    obtain ⟨place, herror⟩ := hflattens.switchDefault_of_several n.span hdefaults
    exact ⟨place, by rw [herror, Except.map]⟩
  · intro hdefaults hlast
    obtain ⟨place, herror⟩ := hflattens.switchDefault_of_not_last n.span hdefaults hlast
    exact ⟨place, by rw [herror, Except.map]⟩
  · intro x hx
    cases hotherwise : switchDefault n.span items with
    | error e =>
      rw [hotherwise] at hx
      cases hx
    | ok otherwise =>
      rw [hotherwise] at hx
      cases hx
      refine ⟨_, otherwise, rfl, hflattens.values_eq, ?_, ?_⟩
      · exact fun hnone => hflattens.isNothing_of_switchDefault hnone hotherwise
      · intro before label after hlabels
        have hflattens : Flattens (before ++ label :: after) items := hlabels ▸ hflattens
        exact hflattens.effectiveBody_eq before (.of_switchDefault hotherwise)

end Scope

open Production in
/-- Two cases that share an empty body, and a default behind them: neither case falls through to
it. -/
theorem Scope.SwitchReads.statement_flattens_default :
    let shared := Production.switchGroup [caseLabel (integer "1"), caseLabel (integer "2")] []
    let last := Production.switchGroup [defaultLabel] [expressionStatement (identifier "y")]
    let n := switchStatement (identifier "x") [shared, last]
    ∃ subject one two idle y,
      (outermost 2).SwitchReads n subject [⟨[some one, some two], idle⟩, ⟨[none], y⟩] ∧
      ∃ x cases otherwise, (outermost 2).statement n = .ok x ∧
        x.shape = .switch subject cases otherwise ∧ cases.map SwitchCase.value = [one, two] ∧
        effectiveBody cases otherwise = idle ∧
        effectiveBody (cases.drop 1) otherwise = idle ∧
        effectiveBody (cases.drop 2) otherwise = y := by
  intro shared last n
  have hshared : ∃ one two idle, (outermost 2).GroupReads shared
      ⟨[some one, some two], idle⟩ :=
    ⟨_, _, _, List.cons_ne_nil _ _,
      .cons (.case rfl rfl rfl rfl) (.cons (.case rfl rfl rfl rfl) .nil), rfl⟩
  obtain ⟨one, two, idle, hshared⟩ := hshared
  obtain ⟨y, hy, _⟩ := Lowered.exists_of_any (x := (outermost 2).body last last.span)
    (p := fun y => !y.isNothing) (by decide +kernel)
  have hlast : (outermost 2).GroupReads last ⟨[none], y⟩ :=
    ⟨List.cons_ne_nil _ _, .cons (.default rfl rfl) .nil, hy⟩
  have hreads : ∃ subject, (outermost 2).SwitchReads n subject _ :=
    ⟨_, rfl, ⟨_, rfl, rfl⟩, .cons hshared (.cons hlast .nil)⟩
  obtain ⟨subject, hreads⟩ := hreads
  obtain ⟨hiff, _, _, heffect⟩ := hreads.statement_flattens
  obtain ⟨x, hx⟩ := hiff.2 (.inr ⟨rfl, rfl⟩)
  obtain ⟨cases, otherwise, hshape, hvalues, _, hbodies⟩ := heffect x hx
  exact ⟨subject, one, two, idle, y, hreads, x, cases, otherwise, hx, hshape, hvalues,
    hbodies [] _ _ rfl, hbodies [_] _ _ rfl, hbodies [_, _] _ _ rfl⟩

end GroovyLowering
