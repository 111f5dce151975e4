import GroovyLowering.Proofs.Command
import GroovyLowering.Proofs.Path

/-!
# Trailing closures

A closure behind a call is one more argument of it: `f(a) { b }` means what `f(a, { b })` means, and
`f(a: b) { c }` what `f([a: b], { c })` means (`Scope.trailing_closures`).

Each closure takes the call apart again and adds itself to the arguments.  So a run of them ends in
the same call with all of them added (`Scope.exists_pathElements_closures`).  What the call is made
of besides, its receiver, its method and its flags, does not depend on its arguments
(`Expr.makes_applyArguments`).

Between the parentheses the closures are lowered one level further in, and before the receiver is
called.  So there they may nest too deep, and of two problems another one may be the first.  Hence
the two are compared where they succeed: the closures are first moved in front of the call, which
keeps what it succeeds with (`Scope.exists_pathElements_call`), and then compared with those between
the parentheses step by step (`Scope.exists_lists_of_trailingClosures`).
-/

namespace GroovyLowering

/-! ## The two ways to write closures -/

namespace Production

open Node

/-- The argument list with given elements, if there are any. -/
def elementList? (elements : List Node) : Option Node :=
  if elements.isEmpty then none else some ((bare .argumentList).withList .element elements)

/-- The form `(args)` as a path element, given the elements of the argument list. -/
def callWith (elements : List Node) : Node := callElement (elementList? elements)

/-- A call with closures behind it, as path elements, and the call that has them as arguments. -/
inductive TrailingClosures : List Node → Node → Prop where
  /-- Closures behind positional arguments, plain ones or ones that are spread. -/
  | positional (args : List Node) {cs : List Node} (hne : cs ≠ [])
      (hcs : ∀ c ∈ cs, c.kind = .closure) :
    TrailingClosures (callWith args :: cs.map closureElement) (callWith (args ++ cs.map element))
  /-- Closures behind named arguments, which then stand for a map. -/
  | named {entries cs : List Node} (hentries : entries ≠ []) (hne : cs ≠ [])
      (hcs : ∀ c ∈ cs, c.kind = .closure) :
    TrailingClosures (namedCall entries :: cs.map closureElement)
      (callWith (element (map entries) :: cs.map element))

end Production

/-! ## Calls and their arguments -/

/-- What arguments are when a closure comes behind them. -/
def Arguments.values : Arguments → List Expr
  | .positional args _ => args
  | .named entries span => [{ shape := .map entries, span }]

/-- Arguments with closures behind them. -/
def Arguments.withClosures (closures : List Expr) (a : Arguments) : Arguments :=
  .positional (a.values ++ closures) a.span

theorem Arguments.withClosure_eq (closure : Expr) (a : Arguments) :
    a.withClosure closure = a.withClosures [closure] := by
  cases a <;> rfl

theorem Arguments.withClosures_append (closures others : List Expr) (a : Arguments) :
    a.withClosures (closures ++ others) = (a.withClosures closures).withClosures others := by
  rw [withClosures, withClosures, withClosures, values, span, List.append_assoc]

/-- A way to make calls that hands the arguments and the span on. -/
def Call.Makes (call : Call) (make : Arguments → Span → Lowered Expr) : Prop :=
  ∀ arguments span, make arguments span = .ok { shape := .methodCall { call with arguments }, span }

/-- A receiver either makes of all arguments the same call with these arguments, or is refused
whatever the arguments are. -/
theorem Expr.makes_applyArguments (receiver : Expr) :
    (∃ call : Call, call.Makes receiver.applyArguments) ∨
      ∃ e, ∀ arguments span, receiver.applyArguments arguments span = .error e := by
  have hvalue : ∀ e : Expr, ∃ call : Call, call.Makes fun a p => .ok (e.callValue a p) := by
    intro e
    exact ⟨
      { object := e, method := .symbol callMethod e.span, arguments := .positional [] .fileStart },
      fun _ _ => rfl⟩
  have honThis : ∀ name : Expr, ∃ call : Call, call.Makes fun a p => .ok (name.callOnThis a p) := by
    intro name
    exact ⟨
      { object := .self name.asMethod.span, method := name.asMethod,
        arguments := .positional [] .fileStart, implicitThis := true },
      fun _ _ => rfl⟩
  have hmember : ∀ access : Access, ∃ call : Call, call.Makes fun a p => .ok (access.call a p) := by
    intro access
    exact ⟨
      { object := access.object, method := access.member,
        arguments := .positional [] .fileStart, safe := access.safe && !access.spreadSafe,
        spreadSafe := access.spreadSafe, generics := access.generics },
      fun _ _ => rfl⟩
  obtain ⟨shape, place, parenthesized⟩ := receiver
  cases shape with
  | property access => exact Or.inl (hmember access)
  | field access => exact Or.inl (hvalue _)
  | name v =>
    unfold applyArguments
    dsimp only
    split_ifs
    · exact Or.inl (hvalue _)
    · exact Or.inr ⟨_, fun _ _ => rfl⟩
    · exact Or.inl (honThis _)
  | gstring => exact Or.inl (honThis _)
  | constant c =>
    unfold applyArguments
    dsimp only
    split_ifs
    · exact Or.inl (honThis _)
    · exact Or.inl (hvalue _)
  | _ => exact Or.inl (hvalue _)

namespace Scope

open Comparison Production

/-- Lower arguments in parentheses and closures behind them. -/
def argumentsAndClosures (s : Scope) (n : Node) (closures : List Node) : Lowered Arguments := do
  let arguments ← s.arguments n
  return arguments.withClosures (← closures.mapM s.closure)

/-! ## Closures behind a call -/

/-- A closure behind a call is added to its arguments. -/
theorem pathElement_closureElement (s : Scope) (call : Call) (p : Span) (c : Node) :
    s.pathElement { shape := .methodCall call, span := p } (closureElement c) =
      s.closure c >>= fun closure => pure
        { shape := .methodCall { call with arguments := call.arguments.withClosures [closure] }
          span := (closureElement c).span } := by
  have helement : s.pathElement { shape := .methodCall call, span := p } (closureElement c) =
      s.closure c >>= fun closure =>
        pure (Expr.applyClosure { shape := .methodCall call, span := p } closure
          (closureElement c).span) := rfl
  simp only [helement, Expr.applyClosure, Arguments.withClosure_eq]

/-- A run of closures behind a call is added to its arguments, by induction on the run. -/
theorem exists_pathElements_closures (c : Node) (cs : List Node) :
    ∃ q, ∀ (s : Scope) (call : Call) (p : Span),
      s.pathElements { shape := .methodCall call, span := p } ((c :: cs).map closureElement) =
        (c :: cs).mapM s.closure >>= fun closures => pure
          { shape := .methodCall { call with arguments := call.arguments.withClosures closures }
            span := q } := by
  induction cs generalizing c with
  | nil =>
    refine ⟨(closureElement c).span, fun s call p => ?_⟩
    rw [List.map_cons, pathElements_cons, pathElement_closureElement]
    simp only [List.map_nil, pathElements_nil, List.mapM_cons, List.mapM_nil, bind_assoc, pure_bind]
    rfl
  | cons d ds ih =>
    obtain ⟨q, hrest⟩ := ih d
    refine ⟨q, fun s call p => ?_⟩
    rw [List.map_cons, pathElements_cons, pathElement_closureElement, List.mapM_cons]
    simp only [bind_assoc, pure_bind, hrest]
    simp only [← Arguments.withClosures_append, List.singleton_append]

/-- A call without anything behind it. -/
theorem exists_pathElements_callElement (list : Option Node) :
    ∃ n q, n.node? .list = list ∧ ∀ (s : Scope) (receiver : Expr),
      s.pathElements receiver [Node.callElement list] =
        s.arguments n >>= fun arguments => receiver.applyArguments arguments q := by
  obtain ⟨n, q, hlist, hcall⟩ := exists_pathElement_callElement list
  refine ⟨n, q, hlist, fun s receiver => ?_⟩
  rw [← hcall, pathElements_cons]
  exact bind_pure _

/-- A call with closures behind it is lowered to the call with all of them as further arguments.
There the closures are lowered before the receiver is called, so another problem may come first. -/
theorem exists_pathElements_call (list : Option Node) (c : Node) (cs : List Node) :
    ∃ n q, n.node? .list = list ∧ ∀ (s : Scope) (receiver e : Expr),
      s.pathElements receiver (Node.callElement list :: (c :: cs).map closureElement) = .ok e ↔
        (s.argumentsAndClosures n (c :: cs) >>= fun arguments =>
          receiver.applyArguments arguments q) = .ok e := by
  obtain ⟨n, p, hlist, hcall⟩ := exists_pathElement_callElement list
  obtain ⟨q, hclosures⟩ := exists_pathElements_closures c cs
  refine ⟨n, q, hlist, fun s receiver e => ?_⟩
  rw [pathElements_cons, hcall, bind_assoc, argumentsAndClosures, bind_assoc]
  cases s.arguments n with
  | error => exact ⟨nofun, nofun⟩
  | ok arguments =>
    rw [Lowered.bind_of_ok rfl, Lowered.bind_of_ok rfl, bind_assoc]
    rcases receiver.makes_applyArguments with ⟨call, hmakes⟩ | ⟨refused, hrefused⟩
    · rw [Lowered.bind_of_ok (hmakes _ _), hclosures]
      simp only [pure_bind, hmakes _ _]
      rfl
    · simp only [pure_bind, hrefused]
      refine ⟨nofun, fun h => ?_⟩
      obtain ⟨_, _, h⟩ := Lowered.exists_of_bind h
      cases h

/-! ## Arguments of a call -/

theorem arguments_of_elements (s : Scope) {n : Node} {elements : List Node}
    (hlist : n.node? .list = elementList? elements) :
    s.arguments n = elements.mapM s.element >>= fun args => pure (.positional args n.span) := by
  rw [arguments, hlist]
  cases elements with
  | nil => rfl
  | cons first others =>
    have hentry : ((Node.bare .argumentList).withList .element (first :: others)).has .entry =
        false := by simp [Node.withList]
    have helements : ((Node.bare .argumentList).withList .element (first :: others)).nodes
        .element = first :: others := by simp [Node.withList]
    simp only [elementList?, List.isEmpty_cons, Bool.false_eq_true, if_false, argumentList, hentry,
      Scope.elements, helements, bind_assoc, pure_bind]
    rfl

theorem arguments_of_entries (s : Scope) {n : Node} {entries : List Node} (hne : entries ≠ [])
    (hlist : n.node? .list = some (namedArgumentList entries)) :
    s.arguments n = entries.mapM s.mapEntry >>= fun args => pure (.named args n.span) := by
  have hentry : (namedArgumentList entries).has .entry = true := by
    simp [namedArgumentList, Node.withList, hne]
  have hentries : (namedArgumentList entries).nodes .entry = entries := by
    simp [namedArgumentList, Node.withList]
  rw [arguments, hlist]
  simp only [argumentList, hentry, if_true, mapEntries, hentries, bind_assoc, pure_bind]
  rfl

variable {limit left : Nat} {p q : Span}

/-- An expression as an element of a list, against what it is lowered to with more levels left. -/
theorem element_agree {m : Node} {y : Lowered Expr}
    (h : ∀ inner place, inner ≤ left →
      deeper.Agree (Expr.mapSpans deeper.span) ((level limit inner place).expression m) y) :
    deeper.Agree (Expr.mapSpans deeper.span) ((level limit left p).element (Production.element m))
      y := by
  have helement : (level limit left p).element (Production.element m) =
      (level limit left p).expr m >>= fun e => pure (e.withSpan (Production.element m).span) := rfl
  rw [helement]
  cases left with
  | zero =>
    have hdeep : deeper.excuses (.nestingTooDeep limit (m.spanOr p)) := ⟨limit, _, rfl⟩
    exact Agree.excused hdeep y
  | succ left =>
    rw [← bind_pure y]
    exact (h left _ left.le_succ).bind fun a b hab =>
      Agree.pure ((Expr.eraseSpans_withSpan a _).trans hab)

theorem closure_agree {c : Node} (hc : c.kind = .closure) :
    deeper.Agree (Expr.mapSpans deeper.span) ((level limit left p).element (Production.element c))
      ((level limit left q).closure c) := by
  refine element_agree fun inner place hinner => ?_
  rw [expression, hc]
  exact (Scopes.deeper hinner place q).closure rfl

theorem closures_agree {cs : List Node} (hcs : ∀ c ∈ cs, c.kind = .closure) :
    deeper.Agree (List.map (Expr.mapSpans deeper.span))
      ((cs.map Production.element).mapM (level limit left p).element)
      (cs.mapM (level limit left q).closure) := by
  rw [List.mapM_map]
  refine Agree.mapM (R := fun n c => n = c ∧ c.kind = .closure) ?_ fun n c hc => ?_
  · exact List.forall₂_same.2 fun c hc => ⟨rfl, hcs c hc⟩
  · obtain ⟨rfl, hc⟩ := hc
    exact closure_agree hc

theorem map_agree {entries : List Node} (hne : entries ≠ []) (span : Span) :
    deeper.Agree (Expr.mapSpans deeper.span)
      ((level limit left p).element (Production.element (Production.map entries)))
      (entries.mapM (level limit left q).mapEntry >>= fun entries =>
        pure { shape := .map entries, span }) := by
  refine element_agree fun inner place hinner => ?_
  have hkind : (Production.map entries).kind = .map := by
    simp [Production.map, Node.withList, hne]
  have hentries : (Production.map entries).nodes .entry = entries := by
    simp [Production.map, Node.withList, hne]
  rw [expression, hkind]
  show deeper.Agree _ ((level limit inner place).map _) _
  rw [Scope.map, mapEntries, hentries]
  refine (Agree.mapM (Node.forall₂_moved_refl entries)
    fun n m => (Scopes.deeper hinner place q).mapEntry).bind fun a b hab => Agree.pure ?_
  simp [hab]

/-- Positional arguments: with the closures among them, against the closures behind them. -/
theorem arguments_agree_of_elements {args cs : List Node} (hcs : ∀ c ∈ cs, c.kind = .closure)
    {n m : Node} (hn : n.node? .list = elementList? args)
    (hm : m.node? .list = elementList? (args ++ cs.map Production.element)) :
    deeper.Agree (Arguments.mapSpans deeper.span) ((level limit left p).arguments m)
      ((level limit left q).argumentsAndClosures n cs) := by
  rw [arguments_of_elements _ hm, argumentsAndClosures, arguments_of_elements _ hn,
    List.mapM_append]
  simp only [bind_assoc, pure_bind]
  refine (Agree.mapM (Node.forall₂_moved_refl args)
    fun n m => (Scopes.deeper le_rfl p q).element).bind fun a b hab => ?_
  refine (closures_agree hcs).bind fun x y hxy => Agree.pure ?_
  simp [Arguments.withClosures, Arguments.values, Arguments.span, hab, hxy]

/-- Named arguments: a map with the closures behind it, against the closures behind the entries. -/
theorem arguments_agree_of_entries {entries cs : List Node} (hne : entries ≠ [])
    (hcs : ∀ c ∈ cs, c.kind = .closure) {n m : Node}
    (hn : n.node? .list = some (namedArgumentList entries))
    (hm : m.node? .list =
      elementList? (Production.element (Production.map entries) :: cs.map Production.element)) :
    deeper.Agree (Arguments.mapSpans deeper.span) ((level limit left p).arguments m)
      ((level limit left q).argumentsAndClosures n cs) := by
  have hinside : (level limit left p).arguments m =
      (level limit left p).element (Production.element (Production.map entries)) >>= fun first =>
        (cs.map Production.element).mapM (level limit left p).element >>= fun closures =>
          pure (.positional (first :: closures) m.span) := by
    rw [arguments_of_elements _ hm, List.mapM_cons]
    simp only [bind_assoc, pure_bind]
  have hbehind : (level limit left q).argumentsAndClosures n cs =
      (entries.mapM (level limit left q).mapEntry >>= fun entries =>
        pure { shape := .map entries, span := n.span }) >>= fun first =>
          cs.mapM (level limit left q).closure >>= fun closures =>
            pure (.positional (first :: closures) n.span) := by
    rw [argumentsAndClosures, arguments_of_entries _ hne hn]
    simp only [bind_assoc, pure_bind]
    rfl
  rw [hinside, hbehind]
  refine (map_agree hne n.span).bind fun a b hab => ?_
  refine (closures_agree hcs).bind fun x y hxy => Agree.pure ?_
  simp [hab, hxy]

/-- Both kinds of calls: one argument list in front of the closures and one that has them. -/
theorem exists_lists_of_trailingClosures {elements : List Node} {call : Node}
    (h : TrailingClosures elements call) :
    ∃ list list' c cs, elements = Node.callElement list :: (c :: cs).map closureElement ∧
      call = Node.callElement list' ∧
      ∀ {n m : Node}, n.node? .list = list → m.node? .list = list' →
        ∀ (limit left : Nat) (p q : Span),
          deeper.Agree (Arguments.mapSpans deeper.span) ((level limit left p).arguments m)
            ((level limit left q).argumentsAndClosures n (c :: cs)) := by
  cases h with
  | @positional args cs hne hcs =>
    obtain ⟨c, cs, rfl⟩ := List.exists_cons_of_ne_nil hne
    exact ⟨_, _, c, cs, rfl, rfl, fun hn hm _ _ _ _ => arguments_agree_of_elements hcs hn hm⟩
  | @named entries cs hentries hne hcs =>
    obtain ⟨c, cs, rfl⟩ := List.exists_cons_of_ne_nil hne
    exact ⟨some (namedArgumentList entries), _, c, cs, rfl, rfl,
      fun hn hm _ _ _ _ => arguments_agree_of_entries hentries hcs hn hm⟩

/-! ## Paths with trailing closures -/

variable {primary call : Node} {xs elements : List Node}

/-- The two paths, written out: what one is lowered to the other is lowered to as well. -/
theorem trailing_closures_of_eq (h : TrailingClosures elements call) (limit left : Nat)
    (place place' : Span) :
    let behind := (level limit left place).expr (Production.path primary (xs ++ elements))
    let inside := (level limit left place').expr (Production.path primary (xs ++ [call]))
    (∀ e', inside = .ok e' → ∃ e, behind = .ok e ∧ e.eraseSpans = e'.eraseSpans) ∧
      ∀ e, behind = .ok e →
        Lowered.TooDeep inside ∨ ∃ e', inside = .ok e' ∧ e.eraseSpans = e'.eraseSpans := by
  intro behind inside
  cases left with
  | zero => exact ⟨nofun, nofun⟩
  | succ left =>
    obtain ⟨list, list', c, cs, rfl, rfl, harguments⟩ := exists_lists_of_trailingClosures h
    obtain ⟨n, q, hn, hbehind⟩ := exists_pathElements_call list c cs
    obtain ⟨m, q', hm, hinside⟩ := exists_pathElements_callElement list'
    obtain ⟨t, r, hpath⟩ := exists_expr_path limit left place primary
      (xs ++ Node.callElement list :: (c :: cs).map closureElement)
    obtain ⟨t', r', hpath'⟩ := exists_expr_path limit left place' primary
      (xs ++ [Node.callElement list'])
    -- The first path with its closures lowered where the second one lowers them.
    let x : Lowered Expr := (level limit left t).expr primary >>= fun e =>
      ((level limit left t).pathElements e xs >>= fun e =>
        (level limit left t).argumentsAndClosures n (c :: cs) >>= fun arguments =>
          e.applyArguments arguments q) >>= fun e => pure (e.withSpan r)
    have hreordered : ∀ e, behind = .ok e ↔ x = .ok e := by
      intro e
      simp only [behind, x, hpath, pathElements_append, Lowered.bind_eq_ok_iff, hbehind]
    have hagree : deeper.Agree (Expr.mapSpans deeper.span) inside x := by
      have hs : deeper.Scopes (.level limit left t') (.level limit left t) :=
        Scopes.deeper le_rfl t' t
      simp only [inside, x, hpath', pathElements_append, hinside]
      refine (hs.expr primary.moved_refl).bind fun a b hab => ?_
      refine ((hs.pathElements hab (Node.forall₂_moved_refl xs)).bind fun a b hab => ?_).bind
        fun a b hab => Agree.pure (withSpan_eq hab rfl)
      exact (harguments hn hm limit left t' t).bind fun x y hxy => applyArguments hab hxy rfl
    refine ⟨fun e' he' => ?_, fun e he => ?_⟩
    · obtain ⟨e, he, hsame⟩ := hagree.exists_ok he'
      exact ⟨e, (hreordered e).2 he, hsame.symm⟩
    · rcases hagree.tooDeep_or_eq with hdeep | hsame
      · exact Or.inl hdeep
      · exact Or.inr (Lowered.exists_ok_of_eraseSpans_eq hsame.symm ((hreordered e).1 he))

/-- **Closures behind a call are its last arguments.**  Where the call with the closures among its
arguments is lowered, so is the call with the closures behind it, to the same expression, spans
aside.  Where the latter is lowered, so is the former, unless it nests too deep.  Where the tokens
of the two stand does not matter. -/
theorem trailing_closures (h : TrailingClosures elements call) {n m : Node}
    (hn : n.Moved (Production.path primary (xs ++ elements)))
    (hm : m.Moved (Production.path primary (xs ++ [call]))) (limit left : Nat)
    (place place' : Span) :
    (∀ e', (level limit left place').expr m = .ok e' →
        ∃ e, (level limit left place).expr n = .ok e ∧ e.eraseSpans = e'.eraseSpans) ∧
      ∀ e, (level limit left place).expr n = .ok e →
        Lowered.TooDeep ((level limit left place').expr m) ∨
          ∃ e', (level limit left place').expr m = .ok e' ∧ e.eraseSpans = e'.eraseSpans := by
  have hbehind := eraseSpans_expr_of_moved hn limit left place place
  have hinside := eraseSpans_expr_of_moved hm limit left place' place'
  obtain ⟨hto, hfrom⟩ := trailing_closures_of_eq h limit left place place'
  refine ⟨fun e' he' => ?_, fun e he => ?_⟩
  · obtain ⟨e₁, he₁, h₁⟩ := Lowered.exists_ok_of_eraseSpans_eq hinside he'
    obtain ⟨e₂, he₂, h₂⟩ := hto e₁ he₁
    obtain ⟨e, he, h₃⟩ := Lowered.exists_ok_of_eraseSpans_eq hbehind.symm he₂
    exact ⟨e, he, h₃.symm.trans (h₂.trans h₁.symm)⟩
  · obtain ⟨e₁, he₁, h₁⟩ := Lowered.exists_ok_of_eraseSpans_eq hbehind he
    rcases hfrom e₁ he₁ with hdeep | ⟨e₂, he₂, h₂⟩
    · exact Or.inl (hdeep.of_eraseSpans_eq hinside.symm)
    · obtain ⟨e', he', h₃⟩ := Lowered.exists_ok_of_eraseSpans_eq hinside.symm he₂
      exact Or.inr ⟨e', he', h₁.trans (h₂.trans h₃)⟩

/-- `x.f(a: b) {} {}` is lowered to what `x.f([a: b], {}, {})` is lowered to. -/
theorem trailing_closures_behind_named :
    let entries := [entry (identifier "a") (identifier "b")]
    let closures := [Production.closure [] false [], Production.closure [] false []]
    let behind := Production.path (identifier "x")
      ([dot "f"] ++ (namedCall entries :: closures.map closureElement))
    let inside := Production.path (identifier "x")
      ([dot "f"] ++ [callWith (Production.element (Production.map entries) ::
        closures.map Production.element)])
    ∃ e e', (Scope.outermost 512).expr behind.layOut.root = .ok e ∧
      (Scope.outermost 512).expr inside.layOut.root = .ok e' ∧ e.eraseSpans = e'.eraseSpans := by
  intro entries closures behind inside
  obtain ⟨e', he', -⟩ := Lowered.exists_of_any (x := (Scope.outermost 512).expr inside.layOut.root)
    (p := fun _ => true) (by decide +kernel)
  have hclosures : ∀ c ∈ closures, c.kind = .closure := by decide
  have h : TrailingClosures (namedCall entries :: closures.map closureElement) _ :=
    .named (List.cons_ne_nil _ _) (List.cons_ne_nil _ _) hclosures
  obtain ⟨e, he, hsame⟩ := (trailing_closures h behind.moved_layOut inside.moved_layOut 512 512
    .fileStart .fileStart).1 e' he'
  exact ⟨e, e', he, he', hsame⟩

/-- With three levels `f() { a }` is lowered, and `f({ a })` nests too deep. -/
example :
    let closure := Production.closure [] false [Production.expressionStatement (identifier "a")]
    let behind := Production.path (identifier "f") [callWith [], closureElement closure]
    let inside := Production.path (identifier "f") [callWith [Production.element closure]]
    ((Scope.level 3 3 .fileStart).expr behind).toOption.isSome = true ∧
      ((Scope.level 3 3 .fileStart).expr inside).toOption.isSome = false := by
  decide +kernel

end Scope

end GroovyLowering
