import GroovyLowering.Proofs.Equations
import GroovyLowering.Proofs.Written.Argument

/-!
# Paths are written back

A path is folded from left to right, so each link is written behind the receiver it is given.  A
call takes its receiver apart: a variable becomes the method of an unwritten `this`, and a property
gives up its object, its member and its safety.  What is written is the same
(`exists_applyArguments`), as long as the receiver names a method (`Expr.NamesMethod`).

One link adds its text (`exists_pathElement`), and so a chain of them adds all texts
(`exists_pathElements`).
-/

namespace GroovyLowering

open Source (Item Entry Link CallsFit)
open Lowered (Restores)

/-! ## Calls of what names a method -/

/-- Whether a call has an expression as its method and nothing is lost of it. -/
def Expr.NamesMethod (e : Expr) : Prop :=
  e.parenthesized = false ∧
    match e.shape with
    | .name v => v.name ≠ "void" ∧ v.name ∉ primitiveTypes
    | .property access => access.generics = none
    | _ => False

theorem safetyMark_call (safe spreadSafe : Bool) :
    safetyMark (safe && !spreadSafe) spreadSafe = safetyMark safe spreadSafe := by
  cases spreadSafe <;> simp [safetyMark]

/-- The call of a property is the property with the arguments behind it. -/
theorem Access.text_call {access : Access} (h : access.generics = none) (arguments : Arguments)
    (span : Span) : (access.call arguments span).text = access.text "." ++ arguments.text := by
  obtain ⟨object, member, safe, spreadSafe, generics⟩ := access
  subst h
  rw [Expr.text_eq]
  simp [Access.call, inParentheses, ExprShape.text, Call.text, Access.text, safetyMark_call,
    String.append_assoc]

/-- The call of a variable is its name with the arguments behind it. -/
theorem Expr.text_callOnThis {e : Expr} {v : Variable} (h : e.asVariable? = some v)
    (arguments : Arguments) (span : Span) :
    (e.callOnThis arguments span).text = v.name ++ arguments.text := by
  have hmethod : e.asMethod = .symbol v.name e.span := by rw [asMethod, h]
  rw [text_eq, callOnThis, hmethod]
  simp [inParentheses, ExprShape.text, Call.text]

theorem Expr.exists_applyArguments {e : Expr} (h : e.NamesMethod) (arguments : Arguments)
    (span : Span) :
    ∃ call, e.applyArguments arguments span = .ok { shape := .methodCall call, span } ∧
      (ExprShape.methodCall call).text = e.text ++ arguments.text := by
  obtain ⟨shape, place, parenthesized⟩ := e
  obtain ⟨hbare, hshape⟩ := h
  cases hbare
  cases shape with
  | name v =>
    obtain ⟨hvoid, hprimitive⟩ := hshape
    have hcall := Expr.text_callOnThis (e := ⟨.name v, place, false⟩) rfl arguments span
    refine ⟨_, ?_, hcall⟩
    rw [applyArguments]
    simp only [hvoid, hprimitive, if_false]
    rfl
  | property access => exact ⟨_, rfl, Access.text_call hshape arguments span⟩
  | _ => exact hshape.elim

namespace Scope

variable {s : Scope} {r : Expr}

/-! ## One link -/

/-- What a link makes of a receiver: the text of the link is written behind the receiver, and a
link that names a method gives what names one. -/
structure Extends (r : Expr) (link : Link) (e : Expr) : Prop where
  parenthesized : e.parenthesized = false
  isProper : e.shape.isProper = true
  text : unspaced e.text = unspaced r.text ++ unspaced link.node.text
  namesMethod : link.NamesMethod → e.NamesMethod

/-- A member operator is a mark of safety with a dot behind it. -/
theorem exists_safety {op : String} (h : op ∈ [".", "?.", "*."]) :
    ∃ safe spreadSafe, safetyMark safe spreadSafe ++ "." = op ∧ ∀ object member : Expr,
      memberShape? object member none false (some op) =
        some (.property { object, member, safe, spreadSafe }) ∧
      memberShape? object member none true (some op) =
        some (.field { object, member, safe, spreadSafe }) := by
  simp only [List.mem_cons, List.not_mem_nil, or_false] at h
  rcases h with rfl | rfl | rfl
  · exact ⟨false, false, rfl, fun _ _ => ⟨rfl, rfl⟩⟩
  · exact ⟨true, false, rfl, fun _ _ => ⟨rfl, rfl⟩⟩
  · exact ⟨true, true, rfl, fun _ _ => ⟨rfl, rfl⟩⟩

/-- An element with a name behind an operator is lowered to the shape that the operator makes. -/
theorem pathElement_name {n : Node} {op name : String} {isField : Bool} {shape : ExprShape}
    (hnode : n.node? .namePart = some (Production.namePart name))
    (hgenerics : n.node? .typeArguments = none)
    (htoken : n.token? .operator = some (.unplaced .operator op))
    (hfield : n.has .atSign = isField)
    (hshape : memberShape? r (.symbol name (Production.namePart name).span) none isField
      (some op) = some shape) :
    s.pathElement r n = .ok { shape, span := n.span } := by
  have hname : s.namePart (Production.namePart name) =
      .ok (.symbol name (Production.namePart name).span) := rfl
  have hnone : s.typeArguments? n = .ok none := by rw [typeArguments?, hgenerics]
  rw [pathElement, hnode]
  dsimp only
  rw [member, Lowered.bind_of_ok hname, Lowered.bind_of_ok hnone, htoken, hfield]
  simp only [Option.map_some, Token.text_unplaced, hshape]
  rfl

theorem extends_member {op name : String} (h : op ∈ [".", "?.", "*.", ".&"]) :
    ∃ e, s.pathElement r (Link.member op name).node = .ok e ∧
      Extends r (Link.member op name) e := by
  by_cases hpointer : op = ".&"
  · subst hpointer
    refine ⟨_, pathElement_name rfl rfl rfl rfl rfl, rfl, rfl, ?_, fun h => absurd rfl h⟩
    rw [Expr.text_eq]
    simp [inParentheses, ExprShape.text, Link.node, Production.member, Production.namePart,
      Node.operator]
  · have hop : op ∈ [".", "?.", "*."] := by
      simp only [List.mem_cons, List.not_mem_nil, or_false, hpointer] at h ⊢
      exact h
    obtain ⟨safe, spreadSafe, hmark, hshape⟩ := exists_safety hop
    refine ⟨_, pathElement_name rfl rfl rfl rfl (hshape _ _).1, rfl, rfl, ?_, fun _ => ⟨rfl, rfl⟩⟩
    have hmark := congrArg unspaced hmark
    rw [Expr.text_eq]
    simp [inParentheses, ExprShape.text, Access.text, Link.node, Production.member,
      Production.namePart, Node.operator, ← hmark]

theorem extends_field {op name : String} (h : op ∈ [".", "?.", "*."]) :
    ∃ e, s.pathElement r (Link.field op name).node = .ok e ∧
      Extends r (Link.field op name) e := by
  obtain ⟨safe, spreadSafe, hmark, hshape⟩ := exists_safety h
  refine ⟨_, pathElement_name rfl rfl rfl rfl (hshape _ _).2, rfl, rfl, ?_, fun h => h.elim⟩
  have hmark := congrArg unspaced hmark
  have hfield : unspaced ".@" = unspaced "." ++ unspaced "@" := rfl
  rw [Expr.text_eq]
  simp [inParentheses, ExprShape.text, Access.text, Link.node, Production.field,
    Production.namePart, Node.operator, ← hmark, hfield]

theorem extends_subscript {items : List Item} (safe : Bool) (halone : ∀ e, items ≠ [⟨true, e⟩])
    (h : ∀ i ∈ items, Restores (s.expr i.expr) i.expr) :
    ∃ e, s.pathElement r (Link.subscript safe items).node = .ok e ∧
      Extends r (Link.subscript safe items) e := by
  let inner := (Node.bare .indexArgs).withList .element (items.map Item.node)
  have hnodes : inner.nodes .element = items.map Item.node := by simp [inner, Node.withList]
  obtain ⟨index, hindex, htext⟩ := restores_subscript hnodes halone h
  generalize hn : (Link.subscript safe items).node = n
  have hname : n.node? .namePart = none := by rw [← hn]; rfl
  have hnode : n.node? .index = some inner := by rw [← hn]; rfl
  have hop : subscriptOp n = if safe then .safeIndex else .index := by
    rw [← hn]
    cases safe <;> rfl
  refine ⟨{ shape := .binary r (subscriptOp n) index, span := n.span }, ?_, rfl, rfl, ?_,
    fun h => h.elim⟩
  · rw [pathElement, hname, hnode]
    dsimp only
    rw [Lowered.bind_of_ok hindex]
    rfl
  · rw [Expr.text_eq, hop, ← hn]
    cases safe <;>
      simp [inParentheses, ExprShape.text, BinaryOp.bracket?, htext, Link.node,
        Production.subscript, Node.operator]

/-- A call behind what names a method writes its arguments behind the receiver. -/
theorem extends_call {list : Node} {arguments : Arguments} {link : Link}
    (hlink : link.node = (Node.bare .pathElement).withNode .arguments list)
    (hlist : s.arguments list = .ok arguments)
    (htext : unspaced arguments.text = unspaced list.text) (hcall : ¬link.NamesMethod)
    (hr : r.NamesMethod) :
    ∃ e, s.pathElement r link.node = .ok e ∧ Extends r link e := by
  obtain ⟨call, happly, hwritten⟩ :=
    Expr.exists_applyArguments hr arguments link.node.span
  refine ⟨{ shape := .methodCall call, span := link.node.span }, ?_, rfl, rfl, ?_,
    fun h => absurd h hcall⟩
  · have hnode : link.node.node? .arguments = some list := by rw [hlink]; rfl
    have hname : link.node.node? .namePart = none := by rw [hlink]; rfl
    have hindex : link.node.node? .index = none := by rw [hlink]; rfl
    rw [pathElement, hname, hindex, hnode]
    dsimp only
    rw [Lowered.bind_of_ok hlist, happly]
  · rw [Expr.text_eq]
    show unspaced (ExprShape.methodCall call).text = _
    rw [hwritten, unspaced_append, htext, hlink]
    simp

theorem exists_pathElement {link : Link} (hallowed : link.Allowed)
    (h : ∀ x ∈ link.exprs, Restores (s.expr x) x) (hr : link.IsCall → r.NamesMethod) :
    ∃ e, s.pathElement r link.node = .ok e ∧ Extends r link e := by
  cases link with
  | member op name => exact extends_member hallowed
  | field op name => exact extends_field hallowed
  | subscript safe items =>
    exact extends_subscript safe hallowed fun i hi => h i.expr (List.mem_map_of_mem hi)
  | call args =>
    obtain ⟨arguments, harguments, htext⟩ := restores_arguments h
    exact extends_call rfl harguments htext id (hr trivial)
  | namedCall entries =>
    have hentries : ∀ e ∈ entries, ∀ x ∈ e.exprs, Restores (s.expr x) x :=
      fun e he x hx => h x (List.mem_flatMap_of_mem he hx)
    obtain ⟨arguments, harguments, htext⟩ := restores_namedArguments hentries
    exact extends_call rfl harguments htext id (hr trivial)

/-! ## Chains of links -/

/-- A chain of links writes all of them behind the receiver. -/
theorem exists_pathElements {named : Prop} {links : List Link} (hfit : CallsFit named links)
    (hallowed : ∀ l ∈ links, l.Allowed)
    (h : ∀ l ∈ links, ∀ x ∈ l.exprs, Restores (s.expr x) x) (hr : named → r.NamesMethod)
    (hne : links ≠ []) :
    ∃ e, s.pathElements r (links.map Link.node) = .ok e ∧ e.parenthesized = false ∧
      e.shape.isProper = true ∧
      unspaced e.text = unspaced r.text ++ links.flatMap fun l => unspaced l.node.text := by
  induction links generalizing r named with
  | nil => exact absurd rfl hne
  | cons link links ih =>
    obtain ⟨hcall, hfit⟩ := hfit
    rw [List.forall_mem_cons] at hallowed h
    obtain ⟨e, he, hextends⟩ := exists_pathElement hallowed.1 h.1 fun hc => hr (hcall hc)
    rw [List.map_cons, pathElements_cons, Lowered.bind_of_ok he, List.flatMap_cons]
    by_cases hlast : links = []
    · subst hlast
      refine ⟨e, rfl, hextends.parenthesized, hextends.isProper, ?_⟩
      rw [hextends.text, List.flatMap_nil, List.append_nil]
    · obtain ⟨final, hfinal, hbare, hproper, htext⟩ :=
        ih hfit hallowed.2 h.2 hextends.namesMethod hlast
      refine ⟨final, hfinal, hbare, hproper, ?_⟩
      rw [htext, hextends.text, List.append_assoc]

/-! ## Paths -/

/-- A primary that names a method is lowered to a variable that does. -/
theorem namesMethod_of_restores {primary : Node} {e : Expr} (h : e.Restores primary)
    (hprimary : Source.NamesMethod primary) : e.NamesMethod := by
  obtain ⟨name, rfl, hvoid, hprimitive⟩ := hprimary
  obtain ⟨v, hv, rfl⟩ := h.asVariable? name rfl
  refine ⟨h.parenthesized, ?_⟩
  obtain ⟨shape, span, parenthesized⟩ := e
  cases shape with
  | name =>
    cases hv
    exact ⟨hvoid, hprimitive⟩
  | _ => cases hv

theorem restores_path {primary : Node} {links : List Link}
    (hprimary : Restores (s.expr primary) primary) (hne : links ≠ [])
    (hallowed : ∀ l ∈ links, l.Allowed)
    (hfit : CallsFit (Source.NamesMethod primary) links)
    (h : ∀ l ∈ links, ∀ x ∈ l.exprs, Restores (s.expr x) x) :
    Restores (s.expression (Production.path primary (links.map Link.node)))
      (Production.path primary (links.map Link.node)) := by
  obtain ⟨receiver, hreceiver, hrestores⟩ := hprimary
  obtain ⟨e, he, hbare, hproper, htext⟩ :=
    exists_pathElements hfit hallowed h (namesMethod_of_restores hrestores) hne
  generalize hn : Production.path primary (links.map Link.node) = n
  have hkind : n.kind = .path := by
    rw [← hn]
    simp [Production.path]
  have hnode : n.node? .primary = some primary := by
    rw [← hn, Node.node?]
    simp [Production.path]
  have helements : n.nodes .element = links.map Link.node := by
    rw [← hn]
    simp [Production.path]
  have hx : s.expression n = .ok { shape := e.shape, span := n.span } := by
    simp only [expression, hkind]
    rw [Scope.path, bind_node hnode, Lowered.bind_of_ok hreceiver, helements,
      Lowered.bind_of_ok he]
    obtain ⟨shape, span, parenthesized⟩ := e
    cases hbare
    rfl
  refine .of_shape hx hproper (by rw [hkind]; rfl) ?_
  have hshape : e.shape.text = e.text := by
    rw [Expr.text_eq, hbare]
    rfl
  rw [hshape, htext, hrestores.text, ← hn]
  simp [Production.path, unspaced_join, List.flatMap_map]

end Scope

end GroovyLowering
