import GroovyLowering.Lower.Unit
import GroovyLowering.Proofs.Construct
import GroovyLowering.Proofs.Equations
import GroovyLowering.Proofs.Step
import GroovyLowering.Tree.Construct.Declaration
import GroovyLowering.Tree.Layout

/-!
# What becomes of the arguments of a call

An argument list has elements and map entries as children, and four constructs call something with
one (`Scope.Calls`).  Whichever it is, the call has the arguments that the list is lowered to
(`Scope.Calls.ensures`): in none of them is the list taken apart again.

The lowering of a list asks once whether there is an entry.  Without one there is an argument for
each element, and with one there is an entry for each entry, both in order (`Scope.Holds`).  What
the list has of the other kind is not looked at.  So nothing is lost exactly when the children are
of one kind (`Scope.Holds.count_eq_iff`), and a list of both kinds is lowered without its elements
(`lower_mixed_without_element`).
-/

namespace GroovyLowering

/-- The arguments of a call or of a new object. -/
def Expr.arguments? (e : Expr) : Option Arguments :=
  match e.shape with
  | .methodCall call => some call.arguments
  | .newObject _ arguments => some arguments
  | _ => none

/-- How many arguments there are. -/
def Arguments.count : Arguments → Nat
  | .positional args _ => args.length
  | .named entries _ => entries.length

namespace Scope

/-- Arguments stand one by one and in order for the children of a list: for its elements if it has
no entry, and for its entries otherwise. -/
inductive Holds (s : Scope) (list : Node) : Arguments → Prop where
  | positional {args : List Expr} {span : Span} (hentry : list.has .entry = false)
      (h : List.Forall₂ (fun c e => s.element c = .ok e) (list.nodes .element) args) :
      Holds s list (.positional args span)
  | named {entries : List MapEntry} {span : Span} (hentry : list.has .entry = true)
      (h : List.Forall₂ (fun c m => s.mapEntry c = .ok m) (list.nodes .entry) entries) :
      Holds s list (.named entries span)

/-- The steps that call something with an argument list. -/
inductive Calls (s : Scope) (list : Node) : Lowered Expr → Prop where
  /-- An element of a path calls what stands in front of it. -/
  | element {receiver : Expr} {n arguments : Node} (hname : n.node? .namePart = none)
      (hindex : n.node? .index = none) (harguments : n.node? .arguments = some arguments)
      (hlist : arguments.node? .list = some list) : Calls s list (s.pathElement receiver n)
  /-- A new object is made. -/
  | creator {n arguments : Node} (harguments : n.node? .arguments = some arguments)
      (hlist : arguments.node? .list = some list) : Calls s list (s.creator n)
  /-- The head of a command is called. -/
  | head {n : Node} {base : Expr} (hlist : n.node? .arguments = some list) :
      Calls s list (s.argumentList? n >>= s.commandHead n base)
  /-- A further word of a command is called. -/
  | word {receiver : Expr} {n : Node} (hlist : n.node? .arguments = some list) :
      Calls s list (s.commandArgument receiver n)

variable {s : Scope} {list : Node}

/-! ## The arguments of a list -/

theorem Holds.withSpan {arguments : Arguments} (h : s.Holds list arguments) (span : Span) :
    s.Holds list (arguments.withSpan span) := by
  cases h with
  | positional hentry h => exact .positional hentry h
  | named hentry h => exact .named hentry h

/-- Nothing is lost exactly when the list has no entries or no elements. -/
theorem Holds.count_eq_iff {arguments : Arguments} (h : s.Holds list arguments) :
    arguments.count = (list.nodes .element).length + (list.nodes .entry).length ↔
      list.has .entry = false ∨ list.nodes .element = [] := by
  cases h with
  | positional hentry h =>
    rw [Arguments.count, nodes_eq_nil_of_has hentry, List.length_nil, Nat.add_zero]
    exact ⟨fun _ => Or.inl hentry, fun _ => h.length_eq.symm⟩
  | named hentry h =>
    rw [Arguments.count, ← h.length_eq, Nat.right_eq_add, List.length_eq_zero_iff, hentry]
    simp

theorem argumentList_holds (s : Scope) (list : Node) :
    (s.argumentList list).Ensures (s.Holds list) := by
  rw [argumentList]
  split
  · next hentry =>
    intro arguments h
    obtain ⟨entries, hentries, h⟩ := Lowered.exists_of_bind h
    cases h
    exact .named hentry (Lowered.forall₂_of_mapM hentries)
  · next hentry =>
    intro arguments h
    obtain ⟨args, hargs, h⟩ := Lowered.exists_of_bind h
    cases h
    exact .positional (Bool.eq_false_iff.2 hentry) (Lowered.forall₂_of_mapM hargs)

theorem arguments_holds {n : Node} (hlist : n.node? .list = some list) :
    (s.arguments n).Ensures (s.Holds list) := by
  rw [arguments, hlist]
  exact (argumentList_holds s list).bind fun arguments h => .pure (h.withSpan n.span)

/-! ## The arguments of a call -/

theorem applyArguments_arguments? (receiver : Expr) (arguments : Arguments) (span : Span) :
    (receiver.applyArguments arguments span).Ensures fun e => e.arguments? = some arguments := by
  rw [Expr.applyArguments]
  split
  · exact .ok rfl
  · exact .ok rfl
  · exact .ok rfl
  · exact .ok rfl
  · split_ifs
    · exact .ok rfl
    · exact .error
    · exact .ok rfl
  · exact .ok rfl
  · split_ifs
    · exact .ok rfl
    · exact .ok rfl
  · exact .ok rfl

theorem headCall_arguments? (base : Expr) (arguments : Arguments) :
    (headCall base arguments).arguments? = some arguments := by
  rw [headCall]
  split <;> rfl

/-- A call that is lowered has the arguments of its list. -/
theorem Calls.ensures {x : Lowered Expr} (h : s.Calls list x) :
    x.Ensures fun e => ∃ arguments, e.arguments? = some arguments ∧ s.Holds list arguments := by
  cases h with
  | @element receiver n child hname hindex harguments hlist =>
    rw [pathElement, hname, hindex, harguments]
    refine (arguments_holds hlist).bind fun arguments h => ?_
    exact (applyArguments_arguments? receiver arguments n.span).mono fun e he => ⟨arguments, he, h⟩
  | creator harguments hlist =>
    rw [Scope.creator]
    refine .node fun _ _ => .skip fun type => ?_
    rw [harguments]
    exact (arguments_holds hlist).bind fun arguments h => .pure ⟨arguments, rfl, h⟩
  | @head n base hlist =>
    have hlist? : (s.argumentList? n).Ensures fun o => ∃ arguments, o = some arguments ∧
        s.Holds list arguments := by
      rw [argumentList?, hlist]
      exact (argumentList_holds s list).bind fun arguments h => .pure ⟨arguments, rfl, h⟩
    refine hlist?.bind ?_
    rintro _ ⟨arguments, rfl, h⟩
    rw [commandHead_eq]
    split
    · exact .refuse
    · exact .ok ⟨arguments, headCall_arguments? base arguments, h⟩
  | word hlist =>
    rw [commandArgument]
    refine .node fun _ _ => .skip fun primary => ?_
    rw [hlist]
    dsimp only
    split
    · exact .refuse
    · exact (argumentList_holds s list).bind fun arguments h => .pure ⟨arguments, rfl, h⟩

/-- **Arguments of calls.**  A call with a list of arguments, in a path, behind `new`, at the head
of a command or at a further word of it, has one argument for each element of the list if there is
no entry, and one entry for each entry otherwise, in order.  That is as many as the list has
children exactly when they are of one kind. -/
theorem Calls.arguments_eq {x : Lowered Expr} (h : s.Calls list x) {e : Expr} (he : x = .ok e) :
    ∃ arguments, e.arguments? = some arguments ∧ s.Holds list arguments ∧
      (arguments.count = (list.nodes .element).length + (list.nodes .entry).length ↔
        list.has .entry = false ∨ list.nodes .element = []) := by
  obtain ⟨arguments, harguments, hholds⟩ := h.ensures e he
  exact ⟨arguments, harguments, hholds, hholds.count_eq_iff⟩

end Scope

/-! ## A list of both kinds -/

namespace Production

/-- The arguments `a, b: c`, an element and an entry. -/
def mixedList : Node :=
  ((argumentList [identifier "a"]).punct ",").withNode .entry
    (entry (identifier "b") (identifier "c"))

/-- The call `(a, b: c)`. -/
def mixedCall : Node :=
  (Node.bare .pathElement).withNode .arguments
    ((((Node.bare .arguments).punct "(").withNode .list mixedList).punct ")")

end Production

open Production

/-- Of two children of the list one argument is left. -/
theorem Scope.Calls.arguments_eq_mixed :
    ∃ e arguments, (Scope.outermost 512).pathElement (.named "f" .fileStart) mixedCall = .ok e ∧
      e.arguments? = some arguments ∧ (Scope.outermost 512).Holds mixedList arguments ∧
      arguments.count ≠ 2 := by
  have hcall : (Scope.outermost 512).Calls mixedList
      ((Scope.outermost 512).pathElement (.named "f" .fileStart) mixedCall) :=
    .element rfl rfl rfl rfl
  obtain ⟨e, he⟩ :
      ∃ e, (Scope.outermost 512).pathElement (.named "f" .fileStart) mixedCall = .ok e :=
    ⟨_, rfl⟩
  obtain ⟨arguments, harguments, hholds, hcount⟩ := Scope.Calls.arguments_eq hcall he
  exact ⟨e, arguments, he, harguments, hholds, mt hcount.1 (by decide)⟩

/-- The script `f(a, b: c)` is lowered to the call of `f` with the entry only. -/
theorem lower_mixed_without_element :
    let root := unit [expressionStatement (path (identifier "f") [mixedCall])]
    (mixedList.nodes .element).length = 1 ∧ (mixedList.nodes .entry).length = 1 ∧
      ∃ script, lower {} ⟨root.layOut.root, []⟩ = .ok script ∧
        script.statements.map Stmt.text = ["f(b: c)"] := by
  intro root
  obtain ⟨script, hscript, htext⟩ := Lowered.exists_of_any (x := lower {} ⟨root.layOut.root, []⟩)
    (p := fun script => script.statements.map Stmt.text == ["f(b: c)"]) (by decide +kernel)
  exact ⟨rfl, rfl, script, hscript, eq_of_beq htext⟩

end GroovyLowering
