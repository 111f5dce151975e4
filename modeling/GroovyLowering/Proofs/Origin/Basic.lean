import GroovyLowering.Proofs.Spans.Natural
import GroovyLowering.Proofs.Spans.Occurring
import GroovyLowering.Proofs.Step
import GroovyLowering.Proofs.Tokens

/-!
# Where the spans of a result come from

A lowering takes every span from a node or a token, and hands spans on without looking at them.  An
`Origin` says which nodes are looked at and which spans are good, with laws that make every span
that is taken from such a node a good one.

* A node gives its own span, or a fallback if it has no tokens, and a token gives its span.
* Children are nodes again.  The body of a construct may be a statement list without any tokens,
  which has no place of its own (`Node.IsHollow`); it is looked at only where a fallback is at hand.

`Origin.keep` leaves good spans as they are and changes all others.  A result has good spans only
when it stays as it is under this replacement.  So the statement about a lowering is that its result
stays as it is (`Lowered.Keeps`), and since all functions on results commute with replacements, no
lemma about the spans inside their values is needed.  The modules beside this one go through the
lowering construct by construct.
-/

namespace GroovyLowering

open Lowered (Ensures)

variable {α β γ : Type}

/-! ## Results that stay as they are -/

/-- A replacement leaves the result of a lowering as it is. -/
def Lowered.Keeps (x : Lowered α) (g : α → α) : Prop := Ensures x fun a => g a = a

theorem map_eq_self {g : α → α} {xs : List α} (h : ∀ x ∈ xs, g x = x) : xs.map g = xs := by
  calc xs.map g = xs.map id := List.map_congr_left h
    _ = xs := List.map_id xs

theorem of_map_eq_self {g : α → α} {xs : List α} (h : xs.map g = xs) : ∀ x ∈ xs, g x = x :=
  List.map_inj_left.1 (h.trans (List.map_id xs).symm)

namespace Lowered.Keeps

variable {g : α → α} {k : β → β}

theorem ok {a : α} (h : g a = a) : Keeps (.ok a) g := Ensures.ok h

theorem pure {a : α} (h : g a = a) : Keeps (Pure.pure a) g := Ensures.pure h

theorem error {e : CompileError} : Keeps (.error e) g := Ensures.error

theorem refuse {s : Scope} {n : Node} {complaint : Complaint} : Keeps (s.refuse n complaint) g :=
  Ensures.refuse

theorem bind {x : Lowered α} {f : α → Lowered β} (hx : x.Keeps g)
    (hf : ∀ a, g a = a → (f a).Keeps k) : (x >>= f).Keeps k :=
  Ensures.bind hx hf

/-- A step of whose result something else is known. -/
theorem given {x : Lowered α} {P : α → Prop} {f : α → Lowered β} (hx : Ensures x P)
    (hf : ∀ a, P a → (f a).Keeps k) : (x >>= f).Keeps k :=
  Ensures.bind hx hf

/-- A step of whose result nothing is asked. -/
theorem skip {x : Lowered α} {f : α → Lowered β} (hf : ∀ a, (f a).Keeps k) : (x >>= f).Keeps k :=
  Ensures.skip hf

theorem present {x : Lowered α} (h : x.Keeps g) :
    Keeps (x >>= fun a => Pure.pure (some a)) (Option.map g) :=
  h.bind fun _ ha => pure (congrArg some ha)

theorem missing : Keeps (.ok none) (Option.map g) := ok rfl

theorem mapM {xs : List β} {f : β → Lowered α} (hf : ∀ x ∈ xs, (f x).Keeps g) :
    (xs.mapM f).Keeps (List.map g) :=
  (Ensures.mapM hf).mono fun _ => map_eq_self

theorem foldlM {xs : List β} {f : α → β → Lowered α}
    (hf : ∀ a, g a = a → ∀ x ∈ xs, (f a x).Keeps g) {a : α} (ha : g a = a) :
    (xs.foldlM f a).Keeps g :=
  Ensures.foldlM hf ha

theorem token {s : Scope} {n : Node} {role : Role} {f : Token → Lowered α}
    (hf : ∀ t, n.token? role = some t → (f t).Keeps g) : (s.token n role >>= f).Keeps g :=
  Ensures.token hf

/-- A subtree that a node must have is one of its subtrees. -/
theorem node {s : Scope} {n : Node} {role : Role} {f : Node → Lowered α}
    (hf : ∀ c ∈ n.nodes role, (f c).Keeps g) : (s.node n role >>= f).Keeps g :=
  Ensures.node fun c hc => hf c (List.mem_of_head? hc)

/-- What commutes with a replacement, errors included, is kept where its parts are. -/
theorem of_mapSpans {f : Span → Span} {x : Lowered Expr} (h : x.mapSpans f = x) :
    x.Keeps (Expr.mapSpans f) := by
  intro e he
  subst he
  exact Except.ok.inj h

end Lowered.Keeps

/-! ## Parts of what stays as it is -/

section Stays

variable {f : Span → Span}

theorem TypeRef.stays_iff {t : TypeRef} :
    t.mapSpans f = t ↔ t.shape.mapSpans f = t.shape ∧ f t.span = t.span := by
  cases t
  simp

theorem Expr.stays_iff {e : Expr} :
    e.mapSpans f = e ↔ e.shape.mapSpans f = e.shape ∧ f e.span = e.span := by
  cases e
  simp

theorem Stmt.stays_iff {x : Stmt} :
    x.mapSpans f = x ↔ x.shape.mapSpans f = x.shape ∧ f x.span = x.span := by
  cases x
  simp

theorem TypeRef.withSpan_stays {t : TypeRef} (ht : t.mapSpans f = t) {p : Span} (hp : f p = p) :
    ({ t with span := p } : TypeRef).mapSpans f = { t with span := p } :=
  TypeRef.stays_iff.2 ⟨(TypeRef.stays_iff.1 ht).1, hp⟩

theorem Expr.withSpan_stays {e : Expr} (he : e.mapSpans f = e) {p : Span} (hp : f p = p) :
    (e.withSpan p).mapSpans f = e.withSpan p := by
  rw [Expr.withSpan_mapSpans, he, hp]

end Stays

/-! ## Origins -/

/-- Whether a role is that of a body. -/
def Role.isBody : Role → Bool
  | .body => true
  | _ => false

/-- A statement list without tokens and without statements. -/
structure Node.IsHollow (n : Node) : Prop where
  kind : n.kind = .blockStatements
  allTokens : n.allTokens = []
  statements : n.nodes .statement = []

/-- Which nodes are looked at, and which spans are good. -/
structure Origin where
  /-- The nodes that are looked at. -/
  node : Node → Prop
  /-- The spans that may stand for a node without tokens. -/
  place : Span → Prop
  /-- The spans that may occur. -/
  good : Span → Prop
  place_fileStart : place .fileStart
  place_spanOr : ∀ {n : Node} {p : Span}, node n → place p → place (n.spanOr p)
  good_spanOr : ∀ {n : Node} {p : Span}, node n → place p → good (n.spanOr p)
  good_token : ∀ {n : Node} {role : Role} {t : Token}, node n → t ∈ n.tokens role → good t.span
  good_declarator : ∀ {n d : Node} {t : Token}, node n → d ∈ n.nodes .declarator →
    d.token? .name = some t → good (d.span.withStartOf n.span)
  child : ∀ {n c : Node} {role : Role}, node n → c ∈ n.nodes role → role.isBody = false → node c
  body : ∀ {n c : Node}, node n → c ∈ n.nodes .body → node c ∨ c.IsHollow
  ownBody : ∀ {n c : Node}, node n → n.kind = .tryStatement ∨ n.kind = .methodDeclaration →
    c ∈ n.nodes .body → node c
  clauseBody : ∀ {n d c : Node}, node n → n.kind = .tryStatement →
    d ∈ n.nodes .catchClause ∨ d ∈ n.nodes .finallyClause → c ∈ d.nodes .body → node c

namespace Origin

variable {O : Origin} {n c : Node} {role : Role} {t : Token} {p : Span}

open Classical in
/-- A replacement that leaves good spans as they are and no others. -/
noncomputable def keep (O : Origin) (p : Span) : Span :=
  if O.good p then p else { p with startLine := p.startLine + 1 }

theorem keep_eq_self_iff : O.keep p = p ↔ O.good p := by
  rw [keep]
  split
  · next h => exact ⟨fun _ => h, fun _ => rfl⟩
  · next h =>
    constructor
    · intro heq
      have hline : p.startLine + 1 = p.startLine := congrArg Span.startLine heq
      omega
    · intro hgood
      exact absurd hgood h

theorem keep_of_good (h : O.good p) : O.keep p = p := keep_eq_self_iff.2 h

theorem keep_spanOr (h : O.node n) (hp : O.place p) : O.keep (n.spanOr p) = n.spanOr p :=
  O.keep_of_good (O.good_spanOr h hp)

theorem keep_span (h : O.node n) : O.keep n.span = n.span := O.keep_spanOr h O.place_fileStart

theorem place_span (h : O.node n) : O.place n.span := O.place_spanOr h O.place_fileStart

theorem keep_token (h : O.node n) (ht : n.token? role = some t) : O.keep t.span = t.span :=
  O.keep_of_good (O.good_token h (List.mem_of_head? ht))

theorem keep_declarator {d : Node} (h : O.node n) (hd : d ∈ n.nodes .declarator)
    (ht : d.token? .name = some t) :
    O.keep (d.span.withStartOf n.span) = d.span.withStartOf n.span :=
  O.keep_of_good (O.good_declarator h hd ht)

theorem child? (h : O.node n) (hc : n.node? role = some c) (hrole : role.isBody = false) :
    O.node c :=
  O.child h (List.mem_of_head? hc) hrole

end Origin

/-! ## Scopes -/

/-- A scope that gives good spans, and that has no statement for a statement list. -/
structure Scope.From (s : Scope) (O : Origin) : Prop where
  place : O.place s.enclosing
  expr : ∀ {n}, O.node n → (s.expr n).Keeps (Expr.mapSpans O.keep)
  stmt : ∀ {n}, O.node n → (s.stmt n).Keeps (Stmt.mapSpans O.keep)
  refuses : ∀ {n}, n.kind = .blockStatements → Ensures (s.stmt n) fun _ => False

namespace Scope.From

variable {O : Origin} {s : Scope} {n c : Node} {role : Role}

theorem keep_spanOf (hs : s.From O) (h : O.node n) : O.keep (s.spanOf n) = s.spanOf n :=
  O.keep_spanOr h hs.place

/-- The body of a construct that is lowered as a statement. -/
theorem bodyStmt (hs : s.From O) (h : O.node n) (hc : c ∈ n.nodes .body) :
    (s.stmt c).Keeps (Stmt.mapSpans O.keep) := by
  rcases O.body h hc with hnode | hhollow
  · exact hs.stmt hnode
  · exact (hs.refuses hhollow.kind).mono fun _ => False.elim

theorem expr? (hs : s.From O) (h : O.node n) (hrole : role.isBody = false) :
    (s.expr? n role).Keeps (Option.map (Expr.mapSpans O.keep)) := by
  rw [Scope.expr?]
  split
  · next child hchild => exact (hs.expr (O.child? h hchild hrole)).present
  · exact .missing

/-- A child that is lowered as an expression. -/
theorem operand (hs : s.From O) (h : O.node n) (hrole : role.isBody = false)
    {f : Expr → Lowered α} {g : α → α} (hf : ∀ e, e.mapSpans O.keep = e → (f e).Keeps g) :
    (s.node n role >>= fun c => s.expr c >>= f).Keeps g :=
  .node fun _ hc => (hs.expr (O.child h hc hrole)).bind hf

end Scope.From

end GroovyLowering
