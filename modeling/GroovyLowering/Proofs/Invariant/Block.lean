import GroovyLowering.Lower.Callable
import GroovyLowering.Proofs.Invariant.Call

/-!
# Declarations, statement lists and closures keep an invariant

There is one theorem per construct, named after its lowering.  It says that the result has the
property within every budget that covers the node, if the scope keeps the invariant.

Annotations and initializers are where a list is made without a level: the elements of an array
have one less in their budget, since one array less nests in them.

A declaration may only stand in some slots.  It is always lowered to a statement, where it may
stand, so the statements of a declaration have the property like any others.
-/

namespace GroovyLowering

open Lowered (Ensures exists_of_bind exists_of_mem_mapM)

namespace Invariant

variable {I : Invariant} {k : Nat}

/-! ## Annotations -/

/-- Annotations whose values have the property. -/
def SoundAnnotations (I : Invariant) (k : Nat) (as : List Annotation) : Prop :=
  ∀ a ∈ as, I.All k a.parts

theorem soundAnnotations_nil : I.SoundAnnotations k [] := List.forall_mem_nil _

/-- Members of an annotation whose values have the property. -/
def SoundMembers (I : Invariant) (k : Nat) (ms : List (String × Expr)) : Prop :=
  ∀ m ∈ ms, I.Sound k m.2

theorem SoundMembers.append {ms : List (String × Expr)} (h : I.SoundMembers k ms) {e : Expr}
    (he : I.Sound k e) (name : String) : I.SoundMembers k (ms ++ [(name, e)]) :=
  List.forall_mem_append.2 ⟨h, List.forall_mem_singleton.2 he⟩

theorem SoundMembers.setMember {ms : List (String × Expr)} (h : I.SoundMembers k ms) {e : Expr}
    (he : I.Sound k e) (name : String) : I.SoundMembers k (setMember name e ms) := by
  induction ms with
  | nil => exact List.forall_mem_singleton.2 he
  | cons m ms ih =>
    obtain ⟨hm, hms⟩ := List.forall_mem_cons.1 h
    rw [GroovyLowering.setMember]
    split
    · exact List.forall_mem_cons.2 ⟨he, hms⟩
    · exact List.forall_mem_cons.2 ⟨hm, ih hms⟩

/-! ## Blocks -/

/-- A block with the property. -/
def SoundBlock (I : Invariant) (k : Nat) (x : Stmt) : Prop := I.SoundStmt k x ∧ x.IsBlock

theorem soundBlock {ss : List Stmt} (h : ∀ x ∈ ss, I.SoundStmt k x) (span : Span) :
    I.SoundBlock k (Stmt.block ss span) :=
  ⟨soundStmt ⟨trivial, all_map.2 h⟩, ss, rfl⟩

end Invariant

namespace Scope.Maintains

open Invariant

variable {I : Invariant} {s : Scope} {d k : Nat} {n : Node} {role : Role}

/-! ## Annotations and modifiers -/

mutual

theorem annotationUse (hs : s.Maintains I d) {k : Nat} {n : Node} (hn : I.Covers d k n)
    {a : Annotation} (ha : s.annotationUse n = .ok a) : I.All k a.parts := by
  rw [annotationUse_eq] at ha
  obtain ⟨name, _, ha⟩ := exists_of_node ha
  obtain ⟨ms, hms, ha⟩ := exists_of_bind ha
  have hmembers : I.SoundMembers k ms := by
    refine Ensures.foldlM ?_ (List.forall_mem_nil _) ms hms
    intro front hfront pair hpair back hback
    have := Node.size_lt_of_mem_nodes hpair
    exact annotationMember hs (hn.child hpair) hfront hback
  cases hvalue : n.node? .value with
  | none =>
    rw [hvalue] at ha
    cases ha
    exact all_map.2 hmembers
  | some child =>
    rw [hvalue] at ha
    obtain ⟨e, he, ha⟩ := exists_of_bind ha
    cases ha
    have := Node.size_lt_of_node? hvalue
    exact all_map.2 (hmembers.setMember (elementValue hs (hn.child? hvalue) he) "value")
termination_by n.size

theorem annotationMember (hs : s.Maintains I d) {k : Nat} {n : Node} (hn : I.Covers d k n)
    {front back : List (String × Expr)} (hfront : I.SoundMembers k front)
    (h : s.annotationMember front n = .ok back) : I.SoundMembers k back := by
  obtain ⟨name, _, h⟩ := exists_of_token h
  cases hvalue : n.node? .value with
  | none =>
    rw [hvalue] at h
    cases h
  | some child =>
    rw [hvalue] at h
    obtain ⟨e, he, h⟩ := exists_of_bind h
    split at h
    · cases h
    · cases h
      have := Node.size_lt_of_node? hvalue
      exact hfront.append (elementValue hs (hn.child? hvalue) he) name.text
termination_by n.size

theorem elementValue (hs : s.Maintains I d) {k : Nat} {n : Node} (hn : I.Covers d k n) {e : Expr}
    (he : s.elementValue n = .ok e) : I.Sound k e := by
  rw [elementValue_eq] at he
  split at he
  · next child hchild => exact hs.expr (hn.child? hchild) he
  · split at he
    · next child hchild =>
      obtain ⟨a, ha, he⟩ := exists_of_bind he
      cases he
      have := Node.size_lt_of_node? hchild
      exact sound rfl rfl trivial (annotationUse hs (hn.child? hchild) ha)
    · split at he
      · next array harray =>
        obtain ⟨es, hes, he⟩ := exists_of_bind he
        cases he
        obtain ⟨j, rfl, hcovers⟩ := hn.array harray
        refine sound_list ?_ _
        intro x hx
        obtain ⟨c, hc, hstep⟩ := exists_of_mem_mapM hes hx
        have := Nat.lt_trans (Node.size_lt_of_mem_nodes hc) (Node.size_lt_of_node? harray)
        exact elementValue hs (hcovers.child hc) hstep
      · cases he
termination_by n.size

end

theorem annotations (hs : s.Maintains I d) (hn : I.Covers d k n) {as : List Annotation}
    (has : s.annotations n = .ok as) : I.SoundAnnotations k as := by
  intro a ha
  obtain ⟨c, hc, hstep⟩ := exists_of_mem_mapM has ha
  exact hs.annotationUse (hn.child hc) hstep

theorem modifier (hs : s.Maintains I d) (hn : I.Covers d k n) {m : Modifier}
    (hm : s.modifier n = .ok m) : ∀ a ∈ m.attached, I.All k a.parts := by
  rw [Scope.modifier] at hm
  split at hm
  · next child hchild =>
    obtain ⟨a, ha, hm⟩ := exists_of_bind hm
    cases hm
    intro b hb
    cases hb
    exact hs.annotationUse (hn.child? hchild) ha
  · obtain ⟨keyword, _, hm⟩ := exists_of_token hm
    split at hm
    · cases hm
      intro b hb
      cases hb
    · cases hm

theorem modifiers (hs : s.Maintains I d) (hn : I.Covers d k n) {ms : ModifierSet}
    (hms : s.modifiers n = .ok ms) : I.SoundAnnotations k ms.annotations := by
  rw [Scope.modifiers] at hms
  split at hms
  · next list hlist =>
    obtain ⟨entries, hentries, hms⟩ := exists_of_bind hms
    cases hms
    intro a ha
    obtain ⟨m, hm, ha⟩ := List.mem_filterMap.1 ha
    obtain ⟨c, hc, hstep⟩ := exists_of_mem_mapM hentries hm
    exact hs.modifier ((hn.child? hlist).child hc) hstep a ha
  · cases hms
    exact soundAnnotations_nil

/-! ## Declarations -/

theorem initializer (hs : s.Maintains I d) {k : Nat} {n : Node} (hn : I.Covers d k n) {e : Expr}
    (he : s.initializer n = .ok e) : I.Sound k e := by
  rw [initializer_eq] at he
  split at he
  · next array harray =>
    obtain ⟨es, hes, he⟩ := exists_of_bind he
    cases he
    obtain ⟨j, rfl, hcovers⟩ := hn.array harray
    refine sound_list ?_ _
    intro x hx
    obtain ⟨c, hc, hstep⟩ := exists_of_mem_mapM hes hx
    have := Nat.lt_trans (Node.size_lt_of_mem_nodes hc) (Node.size_lt_of_node? harray)
    exact initializer hs (hcovers.child hc) hstep
  · obtain ⟨c, x, hx, he⟩ := hs.exists_of_operand hn he
    cases he
    exact hx.withSpan _
termination_by n.size

theorem initializerOr (hs : s.Maintains I d) (hn : I.Covers d k n) {fallback : Span} {e : Expr}
    (he : s.initializerOr n fallback = .ok e) : I.Sound k e := by
  rw [Scope.initializerOr] at he
  split at he
  · next child hchild => exact hs.initializer (hn.child? hchild) he
  · cases he
    exact sound_nothing I k _

section Declaration

variable {m : ModifierSet}

/-- A declaration has the property as a statement. -/
theorem declare (hm : I.SoundAnnotations k m.annotations) {value : Declaration}
    (hvalue : value.WellFormed) (hinitializer : I.Sound k value.initializer)
    (hannotations : value.annotations = []) (span : Span) :
    I.SoundStmt k (Scope.declare m value span) := by
  have hadmits : Slot.statement.Admits .declaration := by decide
  have hparts : I.All k (value.annotations ++ m.annotations |>.flatMap Annotation.parts) := by
    rw [hannotations]
    exact all_flatMap.2 hm
  refine soundStmt ⟨trivial, all_singleton.2 ?_⟩
  exact I.build ⟨hadmits, hvalue⟩ rfl (all_cons.2 ⟨hinitializer, hparts⟩)

theorem declarator (hs : s.Maintains I d) (hm : I.SoundAnnotations k m.annotations) {c : Node}
    (hc : I.Covers d k c) {span : Span} {x : Stmt} (hx : s.declarator n m span c = .ok x) :
    I.SoundStmt k x := by
  obtain ⟨name, _, hx⟩ := exists_of_bind hx
  obtain ⟨type, _, hx⟩ := exists_of_bind hx
  obtain ⟨e, he, hx⟩ := exists_of_bind hx
  cases hx
  refine declare hm ?_ (hs.initializerOr hc he) rfl span
  intro slot hslot
  cases hslot

theorem declarators (hs : s.Maintains I d) (hm : I.SoundAnnotations k m.annotations)
    {ds : List Node} (hds : ∀ c ∈ ds, I.Covers d k c) {xs : List Stmt}
    (hxs : s.declarators n m ds = .ok xs) : ∀ x ∈ xs, I.SoundStmt k x := by
  cases ds with
  | nil => cases hxs
  | cons c others =>
    obtain ⟨hc, hothers⟩ := List.forall_mem_cons.1 hds
    cases others with
    | nil =>
      obtain ⟨x, hx, hxs⟩ := exists_of_bind hxs
      cases hxs
      exact List.forall_mem_singleton.2 (hs.declarator hm hc hx)
    | cons c' others =>
      obtain ⟨x, hx, hxs⟩ := exists_of_bind hxs
      obtain ⟨rest, hrest, hxs⟩ := exists_of_bind hxs
      cases hxs
      refine List.forall_mem_cons.2 ⟨hs.declarator hm hc hx, ?_⟩
      intro y hy
      obtain ⟨e, he, hstep⟩ := exists_of_mem_mapM hrest hy
      exact hs.declarator hm (hothers e he) hstep

theorem tuple (hs : s.Maintains I d) (hm : I.SoundAnnotations k m.annotations)
    (hn : I.Covers d k n) {pairs : List Node} {xs : List Stmt}
    (hxs : s.tuple n m pairs = .ok xs) : ∀ x ∈ xs, I.SoundStmt k x := by
  rw [Scope.tuple] at hxs
  split at hxs
  · obtain ⟨e, he, hxs⟩ := exists_of_bind hxs
    intro x hx
    obtain ⟨⟨pair, index⟩, hentry, hstep⟩ := exists_of_mem_mapM hxs hx
    obtain ⟨name, _, hstep⟩ := exists_of_bind hstep
    obtain ⟨type, _, hstep⟩ := exists_of_bind hstep
    cases hstep
    have hindex : index < pairs.length := by
      have hbounds := (List.mem_zipIdx hentry).2.1
      omega
    refine declare hm ?_ (hs.initializerOr hn he) rfl n.span
    intro slot hslot
    cases hslot
    exact hindex
  · cases hxs

theorem localVariable (hs : s.Maintains I d) (hn : I.Covers d k n) {xs : List Stmt}
    (hxs : s.localVariable n = .ok xs) : ∀ x ∈ xs, I.SoundStmt k x := by
  obtain ⟨m, hm, hxs⟩ := exists_of_bind hxs
  have hannotations := hs.modifiers hn hm
  split at hxs
  · exact hs.tuple hannotations hn hxs
  · exact hs.declarators hannotations (fun c hc => hn.child hc) hxs

end Declaration

/-! ## Statement lists -/

theorem blockStatement (hs : s.Maintains I d) {k : Nat} {n : Node} (hn : I.Covers d k n)
    {xs : List Stmt} (hxs : s.blockStatement n = .ok xs) : ∀ x ∈ xs, I.SoundStmt k x := by
  rw [blockStatement_eq] at hxs
  split at hxs
  · exact hs.localVariable hn hxs
  · obtain ⟨label, _, hxs⟩ := exists_of_token hxs
    split at hxs
    · next child hchild =>
      obtain ⟨ys, hys, hxs⟩ := exists_of_bind hxs
      cases hxs
      have := Node.size_lt_of_node? hchild
      have hinner := blockStatement hs (hn.child? hchild) hys
      intro x hx
      obtain ⟨y, hy, rfl⟩ := List.mem_map.1 hx
      -- A label is no part of what a statement says.
      have hy := hinner y hy
      exact soundStmt ⟨I.wellFormed hy, I.parts hy⟩
    · cases hxs
  · cases hxs
  · cases hxs
  · obtain ⟨x, hx, hxs⟩ := exists_of_bind hxs
    cases hxs
    exact List.forall_mem_singleton.2 (hs.stmt hn hx)
termination_by n.size

theorem statements (hs : s.Maintains I d) (hn : I.Covers d k n) {xs : List Stmt}
    (hxs : s.statements n = .ok xs) : ∀ x ∈ xs, I.SoundStmt k x := by
  obtain ⟨lists, hlists, hxs⟩ := exists_of_bind hxs
  cases hxs
  intro x hx
  obtain ⟨list, hlist, hx⟩ := List.mem_flatten.1 hx
  obtain ⟨c, hc, hstep⟩ := exists_of_mem_mapM hlists hlist
  exact hs.blockStatement (hn.child hc) hstep x hx

theorem block (hs : s.Maintains I d) (hn : I.Covers d k n) {x : Stmt} (hx : s.block n = .ok x) :
    I.SoundBlock k x := by
  obtain ⟨xs, hxs, hx⟩ := exists_of_bind hx
  cases hx
  exact soundBlock (hs.statements hn hxs) _

theorem body (hs : s.Maintains I d) (hn : I.Covers d k n) {fallback : Span} {x : Stmt}
    (hx : s.body n fallback = .ok x) : I.SoundBlock k x := by
  rw [Scope.body] at hx
  split at hx
  · next list hlist =>
    obtain ⟨xs, hxs, hx⟩ := exists_of_bind hx
    cases hx
    exact soundBlock (hs.statements (hn.child? hlist) hxs) _
  · cases hx
    exact soundBlock (List.forall_mem_nil _) _

/-! ## Closures and methods -/

theorem expr? (hs : s.Maintains I d) (hn : I.Covers d k n) {o : Option Expr}
    (ho : s.expr? n role = .ok o) : ∀ e ∈ o, I.Sound k e := by
  rw [Scope.expr?] at ho
  split at ho
  · next child hchild =>
    obtain ⟨e, he, ho⟩ := exists_of_bind ho
    cases ho
    intro e' he'
    cases he'
    exact hs.expr (hn.child? hchild) he
  · cases ho
    intro e he
    cases he

theorem parameter (hs : s.Maintains I d) (hn : I.Covers d k n) {p : Parameter}
    (hp : s.parameter n = .ok p) : I.All k p.parts := by
  obtain ⟨m, hm, hp⟩ := exists_of_bind hp
  obtain ⟨name, _, hp⟩ := exists_of_bind hp
  obtain ⟨type, _, hp⟩ := exists_of_bind hp
  obtain ⟨o, ho, hp⟩ := exists_of_bind hp
  cases hp
  refine all_append.2 ⟨all_flatMap.2 (hs.modifiers hn hm), all_map.2 ?_⟩
  intro e he
  exact hs.expr? hn ho e (Option.mem_toList.1 he)

theorem closureParameters (hs : s.Maintains I d) (hn : I.Covers d k n) {p : ClosureParameters}
    (hp : s.closureParameters n = .ok p) : I.All k p.parts := by
  rw [Scope.closureParameters] at hp
  split at hp
  · obtain ⟨ps, hps, hp⟩ := exists_of_bind hp
    cases hp
    refine all_flatMap.2 ?_
    intro p hp
    obtain ⟨c, hc, hstep⟩ := exists_of_mem_mapM hps hp
    exact hs.parameter (hn.child hc) hstep
  · cases hp
    exact all_nil

theorem closure (hs : s.Maintains I d) (hn : I.Covers d k n) {e : Expr}
    (he : s.closure n = .ok e) : I.Sound k e := by
  obtain ⟨p, hp, he⟩ := exists_of_bind he
  obtain ⟨code, hcode, he⟩ := exists_of_bind he
  cases he
  obtain ⟨hsound, hblock⟩ := hs.body hn hcode
  exact sound rfl rfl hblock
    (all_append.2 ⟨hs.closureParameters hn hp, all_singleton.2 hsound⟩)

theorem methodBody (hs : s.Maintains I d) (hn : I.Covers d k n) {o : Option Stmt}
    (ho : s.methodBody n = .ok o) : ∀ x ∈ o, I.SoundBlock k x := by
  rw [Scope.methodBody] at ho
  split at ho
  · next child hchild =>
    obtain ⟨x, hx, ho⟩ := exists_of_bind ho
    cases ho
    intro y hy
    cases hy
    exact hs.block (hn.child? hchild) hx
  · cases ho
    intro x hx
    cases hx

theorem method (hs : s.Maintains I d) (hn : I.Covers d k n) {m : MethodDecl}
    (hm : s.method n = .ok m) : I.All k m.parts ∧ ∀ body ∈ m.body, body.IsBlock := by
  obtain ⟨modifiers, hmodifiers, hm⟩ := exists_of_bind hm
  obtain ⟨nameToken, _, hm⟩ := exists_of_bind hm
  obtain ⟨name, _, hm⟩ := exists_of_bind hm
  obtain ⟨type, _, hm⟩ := exists_of_bind hm
  obtain ⟨list, hlist, hm⟩ := exists_of_node hm
  obtain ⟨ps, hps, hm⟩ := exists_of_bind hm
  obtain ⟨body, hbody, hm⟩ := exists_of_bind hm
  cases hm
  have hblock := hs.methodBody hn hbody
  have hparameters : ∀ p ∈ ps, I.All k p.parts := by
    intro p hp
    obtain ⟨c, hc, hstep⟩ := exists_of_mem_mapM hps hp
    exact hs.parameter ((hn.child? hlist).child hc) hstep
  constructor
  · refine all_append.2 ⟨all_append.2 ⟨all_flatMap.2 hparameters, all_map.2 ?_⟩, ?_⟩
    · intro x hx
      exact (hblock x (Option.mem_toList.1 hx)).1
    · exact all_flatMap.2 (hs.modifiers hn hmodifiers)
  · intro x hx
    exact (hblock x hx).2

end Scope.Maintains

end GroovyLowering
