import GroovyLowering.Proofs.Construct
import GroovyLowering.Proofs.Relayout
import GroovyLowering.Proofs.Step

/-!
# Commands and dotted paths

A command such as `f a b c` means what the path `f(a).b(c)` means.  `Node.dottedForm` writes the
path of a command: the base, a call element for its arguments, and for every further word a member
element with a call element or path elements behind it.

Commands and paths are folded by different functions, so the proof goes along both folds at once.

* `headElements_eq`: the head of a command is what the path has built behind its call element.
* `wordElements_eq`: a further word does to a receiver what its elements do.
* `words_eq`: so all further words do, by induction on the words.

The expressions on the two sides differ in their spans only, and so do the scopes they are lowered
in.  The comparison of two lowerings takes care of the parts that both sides lower.
-/

namespace GroovyLowering

/-! ## The dotted form of a command -/

/-- A call element with a given argument list. -/
def Node.callElement (list : Option Node) : Node :=
  (Node.bare .pathElement).withNode .arguments
    ((((Node.bare .arguments).punct "(").withNode? .list list).punct ")")

/-- The name that a further word of a command starts with. -/
def Node.word (n : Node) : String :=
  (((n.node? .primary).bind fun p => p.token? .identifier).map Token.text).getD ""

/-- The path elements that a further word of a command stands for. -/
def Node.wordElements (n : Node) : List Node :=
  Production.dot n.word ::
    match n.node? .arguments with
    | some list => [callElement (some list)]
    | none => n.nodes .element

/-- The path elements that the arguments of a command stand for.  A base that is a call already
has its arguments. -/
def Node.headElements (n : Node) (baseIsCall : Bool) : List Node :=
  if baseIsCall then [] else [callElement (n.node? .arguments)]

/-- The path that a command with a given base stands for. -/
def Node.dottedForm (n base : Node) (baseIsCall : Bool) : Node :=
  Production.path base
    (n.headElements baseIsCall ++ (n.nodes .commandArgument).flatMap wordElements)

/-- The expressions that a command may start with. -/
def Expr.LeadsCommand (e : Expr) : Prop :=
  match e.shape with
  | .name v => v.name ≠ "void" ∧ v.name ∉ primitiveTypes
  | .constant c => c.tag = .string
  | .gstring .. | .property _ | .methodCall _ | .binary .. => True
  | _ => False

/-- Whether a further word of a command starts with a plain name. -/
def Node.StartsWithName (n : Node) : Prop := ∃ p, n.node? .primary = some p ∧ p.kind = .identifier

namespace Scope

open Comparison

variable {s s' : Scope} {n w : Node} {a b r r' e : Expr}

/-! ## Path elements written by hand -/

theorem exists_pathElement_callElement (list : Option Node) :
    ∃ n p, n.node? .list = list ∧ ∀ (s : Scope) (receiver : Expr),
      s.pathElement receiver (Node.callElement list) =
        s.arguments n >>= fun arguments => receiver.applyArguments arguments p := by
  refine ⟨(((Node.bare .arguments).punct "(").withNode? .list list).punct ")",
    (Node.callElement list).span, ?_, fun s receiver => rfl⟩
  cases list <;> rfl

theorem pathElement_dot (s : Scope) (receiver : Expr) (name : String) :
    ∃ p q, s.pathElement receiver (Production.dot name) =
      .ok { shape := .property { object := receiver, member := .symbol name p }, span := q } :=
  ⟨_, _, rfl⟩

/-- A call element with the arguments of a command applies those arguments. -/
theorem callElement_eq (hs : relaid.Scopes s s') {arguments : Option Arguments}
    (harguments : s.argumentList? n = .ok arguments) (hr : r.eraseSpans = r'.eraseSpans)
    (p q : Span) {e : Expr}
    (he : r.applyArguments (arguments.getD (.positional [] p)) q = .ok e) :
    ∃ e', s'.pathElement r' (Node.callElement (n.node? .arguments)) = .ok e' ∧
      e.eraseSpans = e'.eraseSpans := by
  obtain ⟨m, place, hlist, helement⟩ := exists_pathElement_callElement (n.node? .arguments)
  have hsame : ∃ x, s'.arguments m = .ok x ∧
      (arguments.getD (.positional [] p)).mapSpans relaid.span = x.mapSpans relaid.span := by
    rw [argumentList?] at harguments
    rw [Scope.arguments, hlist]
    cases hn : n.node? .arguments with
    | none =>
      rw [hn] at harguments
      cases harguments
      exact ⟨_, rfl, rfl⟩
    | some list =>
      rw [hn] at harguments
      obtain ⟨x, hx, harguments⟩ := Lowered.exists_of_bind harguments
      cases harguments
      obtain ⟨y, hy, hxy⟩ := (hs.argumentList (.refl : list.Relaid list)).exists_ok hx
      refine ⟨y.withSpan m.span, by simp only [hy]; rfl, ?_⟩
      rw [Arguments.withSpan_mapSpans, ← hxy]
      cases x <;> rfl
  obtain ⟨x, hx, hsame⟩ := hsame
  rw [helement s' r', hx]
  have hplace : relaid.span q = relaid.span place := rfl
  exact (Comparison.applyArguments (C := relaid) hr hsame hplace).exists_ok he

/-! ## The head of a command -/

/-- Calling a base that may lead a command is what the command does with it. -/
theorem applyArguments_of_leadsCommand (hleads : b.LeadsCommand) (hcall : b.isCall = false)
    (arguments : Arguments) :
    b.applyArguments arguments arguments.span = .ok (headCall b arguments) := by
  obtain ⟨shape, span, parenthesized⟩ := b
  cases shape with
  | name v =>
    obtain ⟨hvoid, hprimitive⟩ := hleads
    simp [Expr.applyArguments, headCall, hvoid, hprimitive]
  | constant c =>
    have htag : c.tag = .string := hleads
    simp [Expr.applyArguments, headCall, htag]
  | gstring => rfl
  | property => rfl
  | binary => rfl
  | methodCall => simp [Expr.isCall] at hcall
  | _ => exact hleads.elim

theorem headElements_eq (hs : relaid.Scopes s s') (hleads : b.LeadsCommand)
    (hb : b.eraseSpans = r.eraseSpans) {arguments : Option Arguments}
    (harguments : s.argumentList? n = .ok arguments) {head : Expr}
    (hhead : s.commandHead n b arguments = .ok head) :
    ∃ head', s'.pathElements r (n.headElements b.isCall) = .ok head' ∧
      head.eraseSpans = head'.eraseSpans := by
  rw [commandHead_eq] at hhead
  cases hcall : b.isCall with
  | true =>
    rw [hcall, if_pos rfl] at hhead
    cases arguments with
    | none =>
      cases hhead
      exact ⟨r, rfl, hb⟩
    | some x => cases hhead
  | false =>
    rw [hcall] at hhead
    cases hhead
    obtain ⟨e, he, hsame⟩ := callElement_eq hs harguments hb b.span _
      (applyArguments_of_leadsCommand hleads hcall _)
    refine ⟨e, ?_, hsame⟩
    rw [Node.headElements, if_neg (by decide), pathElements_cons, Lowered.bind_of_ok he,
      pathElements_nil]

/-! ## The further words of a command -/

/-- A plain name is lowered to a variable of that name. -/
theorem expr_of_startsWithName {limit left : Nat} {place : Span} (hw : w.StartsWithName) {p : Node}
    (hp : w.node? .primary = some p) {x : Expr} (hx : (level limit left place).expr p = .ok x) :
    x.asName = .symbol w.word x.span ∧ x.asMethod = .symbol w.word x.span := by
  obtain ⟨p', hp', hkind⟩ := hw
  obtain rfl : p' = p := Option.some.inj (hp'.symm.trans hp)
  cases left with
  | zero => cases hx
  | succ left =>
    have hname : (level limit left (p'.spanOr place)).nameOf p' .identifier = .ok x := by
      have hx : (level limit left (p'.spanOr place)).expression p' = .ok x := hx
      rwa [expression, hkind] at hx
    obtain ⟨t, ht, hx⟩ := exists_of_token hname
    cases hx
    have hword : w.word = t.text := by simp [Node.word, hp, ht]
    rw [hword]
    exact ⟨rfl, rfl⟩

/-- Members of the same name of receivers that are the same, spans aside. -/
theorem eraseSpans_member (hr : r.eraseSpans = r'.eraseSpans) (name : String)
    (p p' q q' : Span) :
    Expr.eraseSpans { shape := .property { object := r, member := .symbol name p }, span := q } =
      Expr.eraseSpans
        { shape := .property { object := r', member := .symbol name p' }, span := q' } := by
  simp only [Expr.eraseSpans] at hr
  simp [Expr.eraseSpans, hr, Expr.symbol_mapSpans]

/-- A word with arguments calls the member that it names, and so do its elements. -/
theorem calledWord_eq (hs : relaid.Scopes s s') (hr : r.eraseSpans = r'.eraseSpans) {list : Node}
    (hlist : w.node? .arguments = some list) {arguments : Arguments}
    (harguments : s.argumentList list = .ok arguments) (p : Span) :
    ∃ e', s'.pathElements r' w.wordElements = .ok e' ∧
      Expr.eraseSpans
        { shape := .methodCall { object := r, method := .symbol w.word p, arguments }
          span := w.span } = e'.eraseSpans := by
  obtain ⟨q, q', hdot⟩ := pathElement_dot s' r' w.word
  have hargument : s.argumentList? w = .ok (some arguments) := by
    rw [argumentList?, hlist]
    simp only [harguments]
    rfl
  have hmember := eraseSpans_member hr w.word p q p q'
  obtain ⟨e', he', hsame⟩ := callElement_eq hs hargument hmember w.span w.span rfl
  rw [hlist] at he'
  refine ⟨e', ?_, hsame⟩
  rw [Node.wordElements, hlist, pathElements_cons, Lowered.bind_of_ok hdot, pathElements_cons,
    Lowered.bind_of_ok he', pathElements_nil]

variable {limit left : Nat} {place : Span}

/-- One further word: the command makes of a receiver what the elements of the word make of it. -/
theorem wordElements_eq (hs : relaid.Scopes (.level limit left place) s') (hw : w.StartsWithName)
    (hr : r.eraseSpans = r'.eraseSpans)
    (he : (level limit left place).commandArgument r w = .ok e) :
    ∃ e', s'.pathElements r' w.wordElements = .ok e' ∧ e.eraseSpans = e'.eraseSpans := by
  obtain ⟨p, hp, he⟩ := exists_of_node he
  obtain ⟨x, hx, he⟩ := Lowered.exists_of_bind he
  obtain ⟨hname, hmethod⟩ := expr_of_startsWithName hw hp hx
  rw [hname, hmethod] at he
  cases hn : w.node? .arguments with
  | some list =>
    simp only [hn] at he
    split at he
    · cases he
    · obtain ⟨arguments, harguments, he⟩ := Lowered.exists_of_bind he
      cases he
      exact calledWord_eq hs hr hn harguments x.span
  | none =>
    obtain ⟨q, q', hdot⟩ := pathElement_dot s' r' w.word
    have hmember := eraseSpans_member hr w.word x.span q x.span q'
    rw [Node.wordElements, hn, pathElements_cons, Lowered.bind_of_ok hdot]
    simp only [hn] at he
    split at he
    · obtain ⟨y, hy, he⟩ := Lowered.exists_of_bind he
      cases he
      obtain ⟨y', hy', hsame⟩ := (hs.pathElements hmember
        (List.forall₂_same.2 fun _ _ => .refl)).exists_ok hy
      refine ⟨y', hy', ?_⟩
      rw [Expr.eraseSpans_withSpan]
      exact hsame
    · cases he
      have helements := nodes_eq_nil_of_has (Bool.eq_false_iff.2 ‹_›)
      rw [helements, pathElements_nil]
      exact ⟨_, rfl, hmember⟩

/-- All further words, by induction on them. -/
theorem words_eq (hs : relaid.Scopes (.level limit left place) s') {ws : List Node}
    (hws : ∀ w ∈ ws, w.StartsWithName) (hr : r.eraseSpans = r'.eraseSpans)
    (he : ws.foldlM (level limit left place).commandArgument r = .ok e) :
    ∃ e', s'.pathElements r' (ws.flatMap Node.wordElements) = .ok e' ∧
      e.eraseSpans = e'.eraseSpans := by
  induction ws generalizing r r' with
  | nil =>
    cases he
    exact ⟨r', rfl, hr⟩
  | cons w ws ih =>
    rw [List.foldlM_cons] at he
    obtain ⟨x, hx, he⟩ := Lowered.exists_of_bind he
    obtain ⟨x', hx', hsame⟩ := wordElements_eq hs (hws w List.mem_cons_self) hr hx
    obtain ⟨e', he', hsame⟩ := ih (fun w hw => hws w (List.mem_cons_of_mem _ hw)) hsame he
    refine ⟨e', ?_, hsame⟩
    rw [List.flatMap_cons, pathElements_append, Lowered.bind_of_ok hx', he']

/-- **A command means what its dotted form means.**  Whenever a command lowers whose base may lead
it and whose further words start with plain names, its dotted form lowers to the same expression,
spans aside. -/
theorem command_dottedForm {base : Node} (hkind : n.kind = .commandExpression)
    (hbase : n.node? .base = some base)
    (hb : (level limit left (n.spanOr place)).expr base = .ok b) (hleads : b.LeadsCommand)
    (hwords : ∀ w ∈ n.nodes .commandArgument, w.StartsWithName)
    (he : (level limit (left + 1) place).expr n = .ok e) :
    ∃ e', (level limit (left + 1) place).expr (n.dottedForm base b.isCall) = .ok e' ∧
      e.eraseSpans = e'.eraseSpans := by
  have he : (level limit left (n.spanOr place)).expression n = .ok e := he
  rw [expression, hkind, command_eq] at he
  obtain ⟨base', hbase', he⟩ := exists_of_node he
  obtain rfl : base = base' := Option.some.inj (hbase.symm.trans hbase')
  obtain ⟨b', hb', he⟩ := Lowered.exists_of_bind he
  obtain rfl : b = b' := Except.ok.inj (hb.symm.trans hb')
  obtain ⟨arguments, harguments, he⟩ := Lowered.exists_of_bind he
  obtain ⟨head, hhead, he⟩ := Lowered.exists_of_bind he
  obtain ⟨x, hx, he⟩ := Lowered.exists_of_bind he
  cases he
  generalize hm : n.dottedForm base b.isCall = m
  have hs : relaid.Scopes (.level limit left (n.spanOr place))
      (.level limit left (m.spanOr place)) :=
    Scopes.level (.inl ⟨rfl, rfl⟩) rfl
  obtain ⟨b', hb', hsame⟩ := (hs.expr (.refl : base.Relaid base)).exists_ok hb
  obtain ⟨head', hhead', hsame⟩ := headElements_eq hs hleads hsame harguments hhead
  obtain ⟨x', hx', hsame⟩ := words_eq hs hwords hsame hx
  refine ⟨x'.withSpan m.span, ?_, ?_⟩
  · have hprimary : m.node? .primary = some base := by
      rw [← hm, Node.dottedForm, Production.path, Node.node?]
      simp
    have helements : m.nodes .element =
        n.headElements b.isCall ++ (n.nodes .commandArgument).flatMap Node.wordElements := by
      rw [← hm, Node.dottedForm, Production.path]
      simp
    have hpathKind : m.kind = .path := by
      rw [← hm, Node.dottedForm, Production.path]
      simp
    have hpath : (level limit left (m.spanOr place)).path m = .ok (x'.withSpan m.span) := by
      rw [path, bind_node hprimary, Lowered.bind_of_ok hb', helements, pathElements_append,
        Lowered.bind_of_ok hhead', Lowered.bind_of_ok hx']
      rfl
    show (level limit left (m.spanOr place)).expression m = _
    rwa [expression, hpathKind]
  · rw [Expr.eraseSpans_withSpan, Expr.eraseSpans_withSpan]
    exact hsame

/-- `send mail from me now` means what `send(mail).from(me).now` means. -/
theorem command_dottedForm_send :
    let base := Production.identifier "send"
    let n := Production.command base (some [Production.identifier "mail"])
      [Production.commandArgumentCall (Production.identifier "from") [Production.identifier "me"],
        Production.commandArgument (Production.identifier "now")]
    ∃ e e', (level 3 3 .fileStart).expr n = .ok e ∧
      (level 3 3 .fileStart).expr (n.dottedForm base false) = .ok e' ∧
      e.eraseSpans = e'.eraseSpans := by
  intro base n
  obtain ⟨e, he⟩ : ∃ e, (level 3 3 .fileStart).expr n = .ok e := ⟨_, rfl⟩
  have hb : (level 3 2 (n.spanOr .fileStart)).expr base =
      .ok (.named "send" (base.spanOr (n.spanOr .fileStart))) := rfl
  have hleads : (Expr.named "send" (base.spanOr (n.spanOr .fileStart))).LeadsCommand :=
    show "send" ≠ "void" ∧ "send" ∉ primitiveTypes by decide
  have hwords : ∀ w ∈ n.nodes .commandArgument, w.StartsWithName := by
    intro w hw
    rcases List.mem_cons.1 hw with rfl | hw
    · exact ⟨_, rfl, rfl⟩
    · obtain rfl := List.mem_singleton.1 hw
      exact ⟨_, rfl, rfl⟩
  exact ⟨e, (command_dottedForm rfl rfl hb hleads hwords he).imp fun _ h => ⟨he, h⟩⟩

end Scope

end GroovyLowering
