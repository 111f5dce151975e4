import GroovyLowering.Lower.Level
import GroovyLowering.Proofs.Equations
import GroovyLowering.Proofs.Layout.Order
import GroovyLowering.Proofs.Step
import GroovyLowering.Tree.Construct.Declaration

/-!
# Local variable declarations

A local variable declaration gives one statement for each name that it declares, in order.  What
such a statement says is put together from three nodes: one has the name, one the type and one the
initializer (`DeclaredName`).  Names of declarators share the type, and names of a tuple share the
initializer.  All of them have the modifiers of the declaration, and all labels in front of it, the
innermost one first (`Scope.Declares`).

Only the spans tell declarators from each other by their position.  They are regions of the
declaration one behind the other, the first of which takes in what stands in front of the
declarators (`Node.TiledBy`).  That they do not overlap is a fact about the tokens of the file, and
every declarator has one, its name.

All of this is `Scope.declaration_per_name`.
-/

namespace GroovyLowering

/-! ## Labels -/

/-- A statement behind labels, the outermost one first. -/
inductive Node.Labelled : List String → Node → Node → Prop where
  /-- No label. -/
  | none (d : Node) : Labelled [] d d
  /-- One more label in front of a statement. -/
  | cons {n c d : Node} {t : Token} {labels : List String} (hkind : n.kind = .labeledStatement)
      (hlabel : n.token? .label = some t) (hstatement : n.node? .statement = some c)
      (h : Labelled labels c d) : Labelled (t.text :: labels) n d

theorem Node.Labelled.isPartOf {n d : Node} {labels : List String} (h : n.Labelled labels d) :
    d.IsPartOf n := by
  induction h with
  | none d => exact Relation.ReflTransGen.refl
  | cons _ _ hstatement _ ih => exact ih.trans (IsPartOf.child? .refl hstatement)

/-- A statement with labels added behind its others. -/
def Stmt.withLabels (labels : List String) (s : Stmt) : Stmt :=
  { s with labels := s.labels ++ labels }

theorem Stmt.withLabels_nil (s : Stmt) : s.withLabels [] = s := by
  obtain ⟨shape, span, labels⟩ := s
  rw [withLabels, List.append_nil]

theorem Stmt.withLabel_withLabels (labels : List String) (label : String) (s : Stmt) :
    (s.withLabels labels).withLabel label = s.withLabels (labels ++ [label]) := by
  rw [withLabel, withLabels, withLabels, List.append_assoc]

namespace Scope

variable {s : Scope} {n d : Node} {labels : List String}

/-- Labels are added to all statements that the labelled one gives, the innermost one first. -/
theorem blockStatement_of_labelled (h : n.Labelled labels d) :
    s.blockStatement n =
      s.blockStatement d >>= fun stmts => pure (stmts.map (Stmt.withLabels labels.reverse)) := by
  induction h with
  | none d =>
    have hid : Stmt.withLabels [] = id := funext Stmt.withLabels_nil
    simp only [List.reverse_nil, hid, List.map_id, bind_pure]
  | @cons n c d t labels hkind hlabel hstatement h ih =>
    rw [blockStatement_eq, hkind]
    dsimp only
    rw [bind_token hlabel]
    simp only [hstatement, ih, bind_assoc, pure_bind, List.map_map]
    simp only [Function.comp_def, Stmt.withLabel_withLabels, List.reverse_cons]

end Scope

/-! ## Modifiers -/

/-- A keyword stands among the modifiers in front of a declaration. -/
def Node.HasModifier (n : Node) (word : String) : Prop :=
  ∃ list, n.node? .modifiers = some list ∧ ∃ m ∈ list.nodes .modifier,
    m.node? .annotationUse = none ∧ ∃ t, m.token? .keyword = some t ∧ t.text = word

theorem ModifierKind.ofKeyword?_eq_some_iff {word : String} {kind : ModifierKind} :
    ofKeyword? word = some kind ↔ kind ≠ .annotationUse ∧ kind.word = word := by
  rw [ofKeyword?, Option.filter_eq_some_iff]
  constructor
  · rintro ⟨hfind, hkind⟩
    exact ⟨by simpa using hkind, by simpa using List.find?_some hfind⟩
  · rintro ⟨hkind, rfl⟩
    refine ⟨?_, by simpa using hkind⟩
    cases kind <;> decide

namespace Scope

variable {s : Scope} {n m : Node} {modifiers : ModifierSet} {kind : ModifierKind}

theorem kind_modifier_iff {i : Modifier} (h : s.modifier m = .ok i)
    (hkind : kind ≠ .annotationUse) : i.kind = kind ↔
      m.node? .annotationUse = none ∧ ∃ t, m.token? .keyword = some t ∧ t.text = kind.word := by
  rw [modifier] at h
  cases hm : m.node? .annotationUse with
  | some child =>
    rw [hm] at h
    obtain ⟨a, -, h⟩ := Lowered.exists_of_bind h
    cases h
    exact ⟨fun h => absurd h.symm hkind, fun h => nomatch h.1⟩
  | none =>
    rw [hm] at h
    obtain ⟨t, ht, h⟩ := exists_of_token h
    split at h
    · next k hk =>
      cases h
      obtain ⟨-, hword⟩ := ModifierKind.ofKeyword?_eq_some_iff.1 hk
      constructor
      · rintro rfl
        exact ⟨rfl, t, ht, hword.symm⟩
      · rintro ⟨-, u, hu, htext⟩
        obtain rfl : u = t := Option.some.inj (hu.symm.trans ht)
        have hsame : ModifierKind.ofKeyword? u.text = some kind :=
          ModifierKind.ofKeyword?_eq_some_iff.2 ⟨hkind, htext.symm⟩
        exact Option.some.inj (hk.symm.trans hsame)
    · cases h

/-- A keyword is among the modifiers of a declaration exactly if it is written in front of it. -/
theorem contains_modifiers_iff (h : s.modifiers n = .ok modifiers) (hkind : kind ≠ .annotationUse) :
    modifiers.contains kind = true ↔ n.HasModifier kind.word := by
  rw [Scope.modifiers] at h
  cases hn : n.node? .modifiers with
  | none =>
    rw [hn] at h
    cases h
    refine ⟨nofun, ?_⟩
    rintro ⟨list, hlist, -⟩
    cases hn.symm.trans hlist
  | some list =>
    rw [hn] at h
    obtain ⟨items, hitems, h⟩ := Lowered.exists_of_bind h
    cases h
    rw [ModifierSet.contains, List.any_eq_true]
    constructor
    · rintro ⟨i, hi, hik⟩
      obtain ⟨m, hm, hmi⟩ := Lowered.exists_of_mem_mapM hitems hi
      exact ⟨list, hn, m, hm, (kind_modifier_iff hmi hkind).1 (beq_iff_eq.1 hik)⟩
    · rintro ⟨list', hlist', m, hm, hkeyword⟩
      obtain rfl : list' = list := Option.some.inj (hlist'.symm.trans hn)
      obtain ⟨i, hi, hmi⟩ := Lowered.exists_mem_of_mapM hitems hm
      exact ⟨i, hi, beq_iff_eq.2 ((kind_modifier_iff hmi hkind).2 hkeyword)⟩

end Scope

/-! ## Declared names -/

/-- A name that a declaration declares, by the nodes that say what it is. -/
structure DeclaredName where
  /-- The node with the name. -/
  named : Node
  /-- The node with the type, if one is written. -/
  typed : Node
  /-- The node with the initializer, if there is one. -/
  initialized : Node
  /-- The place in a tuple. -/
  slot : Option TupleSlot

/-- Where a name is, given its token: in a tuple its type belongs to it. -/
def DeclaredName.span (c : DeclaredName) (t : Token) : Span :=
  match c.slot with
  | some _ => c.named.span
  | none => t.span

/-- The names that a declaration declares, in order.  Declarators share the type of the declaration,
and the names of a tuple share its initializer. -/
def Node.declaredNames (d : Node) : List DeclaredName :=
  match d.node? .tuple with
  | some pairs =>
    (pairs.nodes .pair).zipIdx.map fun (c, index) =>
      ⟨c, c, d, some ⟨index, (pairs.nodes .pair).length⟩⟩
  | none => (d.nodes .declarator).map fun c => ⟨c, d, c, none⟩

namespace Scope

/-- A declaration of a name that is written as a token. -/
structure DeclaresAs (s : Scope) (modifiers : ModifierSet) (c : DeclaredName) (t : Token)
    (declaration : Declaration) : Prop where
  named : c.named.token? .name = some t
  name : declaration.declared.name = t.text
  nameSpan : declaration.nameSpan = c.span t
  /-- The type is the written one. -/
  typed : ∀ n, c.typed.node? .type = some n → s.typeRef n = .ok declaration.declared.type
  /-- Without one it is dynamic. -/
  untyped : c.typed.node? .type = none → declaration.declared.type = .dynamic t.span
  /-- The value is the written one. -/
  initialized : ∀ n, c.initialized.node? .initializer = some n →
    s.initializer n = .ok declaration.initializer
  /-- Without one there is none. -/
  uninitialized : c.initialized.node? .initializer = none →
    declaration.initializer = .nothing c.initialized.span
  slot : declaration.slot = c.slot
  flags : declaration.declared.modifiers = modifiers.flags
  annotations : declaration.annotations = modifiers.annotations

/-- An expression statement with labels that declares a name. -/
def Declares (s : Scope) (modifiers : ModifierSet) (labels : List String) (c : DeclaredName)
    (stmt : Stmt) : Prop :=
  ∃ t declaration, s.DeclaresAs modifiers c t declaration ∧ stmt.labels = labels ∧
    stmt.shape = .expression { shape := .declaration declaration, span := stmt.span }

variable {s : Scope} {modifiers : ModifierSet} {labels : List String} {c : DeclaredName}
  {stmt : Stmt}

theorem Declares.withLabels (h : s.Declares modifiers [] c stmt) (labels : List String) :
    s.Declares modifiers labels c (stmt.withLabels labels) := by
  obtain ⟨t, declaration, hdeclares, hlabels, hshape⟩ := h
  exact ⟨t, declaration, hdeclares, by rw [Stmt.withLabels, hlabels, List.nil_append], hshape⟩

theorem declares_declare {t : Token} {type : TypeRef} {initializer : Expr}
    (hname : c.named.token? .name = some t) (htype : s.typeOr c.typed t = .ok type)
    (hinitializer : s.initializerOr c.initialized c.initialized.span = .ok initializer)
    (span : Span) :
    s.Declares modifiers [] c (declare modifiers
      { declared := { name := t.text, type }, nameSpan := c.span t, initializer, slot := c.slot,
        annotations := [] } span) := by
  refine ⟨t, _, ?_, rfl, rfl⟩
  exact
    { named := hname
      name := rfl
      nameSpan := rfl
      typed := fun n hn => by rwa [typeOr, hn] at htype
      untyped := fun hn => by
        rw [typeOr, hn] at htype
        exact (Except.ok.inj htype).symm
      initialized := fun n hn => by rwa [initializerOr, hn] at hinitializer
      uninitialized := fun hn => by
        rw [initializerOr, hn] at hinitializer
        exact (Except.ok.inj hinitializer).symm
      slot := rfl
      flags := UInt32.zero_or
      annotations := List.nil_append _ }

end Scope

/-! ## Declarators -/

/-- The spans of the statements for the declarators of a declaration. -/
def Node.declaratorSpans (d : Node) : List Node → List Span
  | [] => []
  | [_] => [d.span]
  | c :: c' :: others => c.span.withStartOf d.span :: (c' :: others).map Node.span

/-- Spans of a declaration one behind the other.  The first one starts where the declaration starts,
and each one ends where its declarator ends, but an only one is the span of the declaration. -/
structure Node.TiledBy (d : Node) (spans : List Span) : Prop where
  alone : ∀ p, spans = [p] → p = d.span
  first : ∀ p ∈ spans.head?, p.start = d.span.start
  stops : 1 < spans.length →
    spans.map Span.stop = (d.nodes .declarator).map fun c => c.span.stop
  apart : spans.Pairwise fun p q => toLex p.stop ≤ toLex q.start

theorem Node.tiledBy_declaratorSpans {d : Node} (h : Token.InOrder d.allTokens)
    (hne : ∀ c ∈ d.nodes .declarator, c.allTokens ≠ []) :
    d.TiledBy (d.declaratorSpans (d.nodes .declarator)) := by
  have hapart := pairwise_nodes_span h hne
  generalize hcs : d.nodes .declarator = cs at hapart ⊢
  match cs with
  | [] => exact ⟨nofun, nofun, nofun, .nil⟩
  | [c] =>
    refine ⟨?_, ?_, fun hlt => absurd hlt (lt_irrefl 1), List.pairwise_singleton _ _⟩
    · rintro _ ⟨⟩
      rfl
    · rintro _ ⟨⟩
      rfl
  | c :: c' :: others =>
    refine ⟨nofun, ?_, fun _ => ?_, .cons ?_ (List.pairwise_map.2 hapart.tail)⟩
    · rintro _ ⟨⟩
      rfl
    · rw [hcs]
      exact congrArg (c.span.stop :: ·) List.map_map
    · exact List.forall_mem_map.2 fun _ hc => List.rel_of_pairwise_cons hapart hc

namespace Scope

variable {s : Scope} {modifiers : ModifierSet} {d : Node} {stmt : Stmt}

/-- One declarator of a declaration. -/
theorem declarator_declares {c : Node} {span : Span}
    (h : s.declarator d modifiers span c = .ok stmt) :
    s.Declares modifiers [] ⟨c, d, c, none⟩ stmt ∧ stmt.span = span := by
  obtain ⟨t, ht, h⟩ := exists_of_token h
  obtain ⟨type, htype, h⟩ := Lowered.exists_of_bind h
  obtain ⟨initializer, hinitializer, h⟩ := Lowered.exists_of_bind h
  cases h
  exact ⟨declares_declare (c := ⟨c, d, c, none⟩) ht htype hinitializer span, rfl⟩

/-- All declarators of a declaration. -/
theorem declarators_declare {cs : List Node} {stmts : List Stmt}
    (h : s.declarators d modifiers cs = .ok stmts) :
    List.Forall₂ (fun c stmt => s.Declares modifiers [] ⟨c, d, c, none⟩ stmt) cs stmts ∧
      stmts.map Stmt.span = d.declaratorSpans cs := by
  match cs with
  | [] => cases h
  | [c] =>
    obtain ⟨stmt, hc, h⟩ := Lowered.exists_of_bind h
    cases h
    obtain ⟨hdeclares, hspan⟩ := declarator_declares hc
    exact ⟨.cons hdeclares .nil, congrArg (· :: []) hspan⟩
  | c :: c' :: others =>
    obtain ⟨first, hc, h⟩ := Lowered.exists_of_bind h
    obtain ⟨rest, hrest, h⟩ := Lowered.exists_of_bind h
    cases h
    obtain ⟨hdeclares, hspan⟩ := declarator_declares hc
    have hothers := (Lowered.forall₂_of_mapM hrest).imp fun c stmt h => declarator_declares h
    refine ⟨.cons hdeclares (hothers.imp fun _ _ h => h.1), ?_⟩
    have hspans : List.Forall₂ (· = ·) (rest.map Stmt.span) ((c' :: others).map Node.span) := by
      rw [List.forall₂_map_left_iff, List.forall₂_map_right_iff]
      exact List.Forall₂.flip (hothers.imp fun _ _ h => h.2)
    rw [List.forall₂_eq_eq_eq] at hspans
    rw [List.map_cons, hspan, hspans, Node.declaratorSpans]

/-! ## Tuples -/

/-- One name of a tuple. -/
theorem tupleName_declares {c : Node} {initializer : Expr} {slot : TupleSlot}
    (hinitializer : s.initializerOr d d.span = .ok initializer)
    (h : s.tupleName d modifiers initializer slot c = .ok stmt) :
    s.Declares modifiers [] ⟨c, c, d, some slot⟩ stmt ∧ stmt.span = d.span := by
  obtain ⟨t, ht, h⟩ := exists_of_token h
  obtain ⟨type, htype, h⟩ := Lowered.exists_of_bind h
  cases h
  exact ⟨declares_declare (c := ⟨c, c, d, some slot⟩) ht htype hinitializer d.span, rfl⟩

/-- All names of a tuple. -/
theorem tuple_declares {cs : List Node} {stmts : List Stmt}
    (h : s.tuple d modifiers cs = .ok stmts) :
    modifiers.contains .untyped = true ∧
      List.Forall₂
        (fun (c : Node × Nat) stmt =>
          s.Declares modifiers [] ⟨c.1, c.1, d, some ⟨c.2, cs.length⟩⟩ stmt)
        cs.zipIdx stmts ∧
      ∀ stmt ∈ stmts, stmt.span = d.span := by
  rw [tuple] at h
  split at h
  · next huntyped =>
    obtain ⟨initializer, hinitializer, h⟩ := Lowered.exists_of_bind h
    refine ⟨huntyped, (Lowered.forall₂_of_mapM h).imp fun c stmt hc => ?_, fun stmt hstmt => ?_⟩
    · exact (tupleName_declares hinitializer hc).1
    · obtain ⟨c, -, hc⟩ := Lowered.exists_of_mem_mapM h hstmt
      exact (tupleName_declares hinitializer hc).2
  · cases h

/-! ## Declarations -/

/-- A local variable declaration declares its names, by declarators or as a tuple. -/
theorem localVariable_declares {stmts : List Stmt} (h : s.localVariable d = .ok stmts) :
    ∃ modifiers, s.modifiers d = .ok modifiers ∧
      List.Forall₂ (s.Declares modifiers []) d.declaredNames stmts ∧
      (d.node? .tuple = none → stmts.map Stmt.span = d.declaratorSpans (d.nodes .declarator)) ∧
      (d.node? .tuple ≠ none → d.HasModifier "def" ∧ ∀ stmt ∈ stmts, stmt.span = d.span) := by
  obtain ⟨modifiers, hmodifiers, h⟩ := Lowered.exists_of_bind h
  refine ⟨modifiers, hmodifiers, ?_⟩
  rw [Node.declaredNames]
  cases htuple : d.node? .tuple with
  | none =>
    rw [htuple] at h
    obtain ⟨hdeclares, hspans⟩ := declarators_declare h
    exact ⟨List.forall₂_map_left_iff.2 hdeclares, fun _ => hspans, fun hne => absurd rfl hne⟩
  | some pairs =>
    rw [htuple] at h
    obtain ⟨huntyped, hdeclares, hspans⟩ := tuple_declares h
    have hword := (contains_modifiers_iff hmodifiers (by decide)).1 huntyped
    exact ⟨List.forall₂_map_left_iff.2 hdeclares, nofun, fun _ => ⟨hword, hspans⟩⟩

/-- A declarator has tokens, for it has a name. -/
theorem allTokens_ne_nil_of_declares (hnone : d.node? .tuple = none) {stmts : List Stmt}
    (h : List.Forall₂ (s.Declares modifiers []) d.declaredNames stmts) :
    ∀ c ∈ d.nodes .declarator, c.allTokens ≠ [] := by
  have hnames : ∀ c ∈ d.declaredNames, c.named.allTokens ≠ [] := by
    refine ((List.forall₂_and_left _ _).1 (h.imp fun c stmt hc => ⟨?_, hc⟩)).1
    obtain ⟨t, declaration, hdeclares, -⟩ := hc
    exact List.ne_nil_of_mem
      (Node.mem_allTokens_of_mem_tokens (List.mem_of_head? hdeclares.named))
  rw [Node.declaredNames, hnone] at hnames
  exact fun c hc => hnames _ (List.mem_map_of_mem hc)

/-- The names of a tuple are refused without the keyword for it. -/
theorem localVariable_refuses (hmodifiers : s.modifiers d = .ok modifiers)
    (htuple : d.node? .tuple ≠ none) (hword : ¬d.HasModifier "def") :
    s.localVariable d = .error (s.complaint d .tupleWithoutDef) := by
  obtain ⟨pairs, hpairs⟩ := Option.ne_none_iff_exists'.1 htuple
  have huntyped : ¬modifiers.contains .untyped = true :=
    mt (contains_modifiers_iff hmodifiers (by decide)).1 hword
  rw [localVariable, Lowered.bind_of_ok hmodifiers, hpairs]
  exact if_neg huntyped

/-- **A local variable declaration gives one statement per name**, in order, behind any labels and
anywhere in a file.  Each statement declares its name with its type and its initializer, the
modifiers of the declaration, and the labels from the innermost one outwards.  The spans of
declarators stand one behind the other, and the names of a tuple all have the span of the
declaration.  A tuple needs the keyword `def`. -/
theorem declaration_per_name {root n : Node} {labels : List String}
    (hn : n.IsPartOf root.layOut.root) (hlabels : n.Labelled labels d)
    (hkind : d.kind = .localVariableDeclaration) (s : Scope) :
    (∀ stmts, s.blockStatement n = .ok stmts →
      ∃ modifiers, s.modifiers d = .ok modifiers ∧
        List.Forall₂ (s.Declares modifiers labels.reverse) d.declaredNames stmts ∧
        (d.node? .tuple = none → d.TiledBy (stmts.map Stmt.span)) ∧
        (d.node? .tuple ≠ none → d.HasModifier "def" ∧ ∀ stmt ∈ stmts, stmt.span = d.span)) ∧
      (d.node? .tuple ≠ none → ¬d.HasModifier "def" →
        ∀ modifiers, s.modifiers d = .ok modifiers →
          s.blockStatement n = .error (s.complaint d .tupleWithoutDef)) := by
  have hblock : s.blockStatement n =
      s.localVariable d >>= fun stmts => pure (stmts.map (Stmt.withLabels labels.reverse)) := by
    rw [blockStatement_of_labelled hlabels, blockStatement_eq, hkind]
  constructor
  · intro stmts h
    rw [hblock] at h
    obtain ⟨unlabelled, hunlabelled, h⟩ := Lowered.exists_of_bind h
    cases h
    obtain ⟨modifiers, hmodifiers, hdeclares, hspans, htuple⟩ := localVariable_declares hunlabelled
    refine ⟨modifiers, hmodifiers, ?_, fun hnone => ?_, fun hsome => ⟨(htuple hsome).1, ?_⟩⟩
    · exact List.forall₂_map_right_iff.2 (hdeclares.imp fun _ _ h => h.withLabels _)
    · have hd : d.IsPartOf root.layOut.root := hlabels.isPartOf.trans hn
      have horder : Token.InOrder d.allTokens := root.inOrder_layOut.sublist hd.sublist
      have hlabelled : (unlabelled.map (Stmt.withLabels labels.reverse)).map Stmt.span =
          unlabelled.map Stmt.span := List.map_map
      rw [hlabelled, hspans hnone]
      exact Node.tiledBy_declaratorSpans horder (allTokens_ne_nil_of_declares hnone hdeclares)
    · exact List.forall_mem_map.2 (htuple hsome).2
  · intro htuple hword modifiers hmodifiers
    rw [hblock, localVariable_refuses hmodifiers htuple hword]
    rfl

/-- The declaration `x: y: final int a, b` gives two statements, with the labels `y` and `x`. -/
theorem declaration_per_name_labelled :
    let root := Production.unit [Production.labeled "x" (Production.labeled "y"
      (Production.localVariable [Production.modifier "final"]
        (some (Production.primitiveType "int"))
        [Production.declarator "a" none, Production.declarator "b" none]))]
    ∃ n d stmts modifiers, n.IsPartOf root.layOut.root ∧ n.Labelled ["x", "y"] d ∧
      (outermost 512).blockStatement n = .ok stmts ∧ stmts.length = 2 ∧
      List.Forall₂ ((outermost 512).Declares modifiers ["y", "x"]) d.declaredNames stmts ∧
      d.TiledBy (stmts.map Stmt.span) := by
  intro root
  have hfound : ∃ n t c u d, root.layOut.root.node? .statement = some n ∧
      n.token? .label = some t ∧ n.node? .statement = some c ∧
      c.token? .label = some u ∧ c.node? .statement = some d ∧
      t.text = "x" ∧ u.text = "y" ∧ n.kind = .labeledStatement ∧ c.kind = .labeledStatement ∧
      d.kind = .localVariableDeclaration ∧ d.node? .tuple = none ∧
      (d.nodes .declarator).length = 2 ∧
      (((outermost 512).blockStatement n).toOption.any fun _ => true) = true := by
    refine ⟨_, _, _, _, _, rfl, rfl, rfl, rfl, rfl, rfl, rfl, rfl, rfl, rfl, rfl, rfl, ?_⟩
    decide +kernel
  obtain ⟨n, t, c, u, d, hn, ht, hc, hu, hd, hx, hy, hnkind, hckind, hkind, hnone, hlength, hlower⟩
    := hfound
  have hlabels : n.Labelled ["x", "y"] d := by
    rw [← hx, ← hy]
    exact .cons hnkind ht hc (.cons hckind hu hd (.none d))
  have hpart : n.IsPartOf root.layOut.root := Node.IsPartOf.child? .refl hn
  obtain ⟨stmts, hstmts, -⟩ := Lowered.exists_of_any hlower
  obtain ⟨modifiers, -, hdeclares, htiled, -⟩ :=
    (declaration_per_name hpart hlabels hkind (outermost 512)).1 stmts hstmts
  refine ⟨n, d, stmts, modifiers, hpart, hlabels, hstmts, ?_, hdeclares, htiled hnone⟩
  rw [← hdeclares.length_eq, Node.declaredNames, hnone, List.length_map, hlength]

end Scope

end GroovyLowering
