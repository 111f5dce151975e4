import GroovyLowering.Lower.Callable
import GroovyLowering.Proofs.LocalVariable

/-!
# Modifiers and access flags

The flags of a declaration are those of its modifiers put together.  Every keyword has a bit of its
own (`ModifierKind.accessFlag_and_iff`), so a bit is set exactly if its keyword is written
(`ModifierSet.flags_and_accessFlag_iff`), and neither the order of keywords nor their number matters
(`ModifierSet.flags_eq_of_contains_iff`).

A method has one more source of flags.  It is public without the keyword unless another keyword says
who may see it, and only then can it be marked as synthetically public.

What holds of the flags and annotations of parameters, declared names and methods is
`Scope.flags_of_modifiers`.
-/

namespace GroovyLowering

/-! ## The bit of a keyword -/

theorem UInt32.or_and_distrib (a b c : UInt32) : (a ||| b) &&& c = a &&& c ||| b &&& c := by
  apply UInt32.toNat_inj.1
  simp only [UInt32.toNat_and, UInt32.toNat_or, Nat.and_or_distrib_right]

theorem UInt32.or_and_ne_zero_iff (a b c : UInt32) :
    (a ||| b) &&& c ≠ 0 ↔ a &&& c ≠ 0 ∨ b &&& c ≠ 0 := by
  rw [or_and_distrib, Ne, UInt32.or_eq_zero_iff, not_and_or]

namespace ModifierKind

variable {a b kind : ModifierKind}

/-- Every keyword has a bit of its own. -/
theorem accessFlag_and_iff (hb : b.isKeyword) : a.accessFlag &&& b.accessFlag ≠ 0 ↔ a = b := by
  cases b <;> cases a <;> first | decide | cases hb

theorem accessFlag_eq_zero (h : ¬kind.isKeyword) : kind.accessFlag = 0 := by
  cases kind <;> first | rfl | exact absurd rfl h

theorem accessFlag_and_visibilityMask_iff (kind : ModifierKind) :
    kind.accessFlag &&& visibilityMask ≠ 0 ↔ kind.isVisibility := by
  cases kind <;> decide

theorem ne_annotationUse_of_isKeyword (h : kind.isKeyword) : kind ≠ .annotationUse := by
  rintro rfl
  cases h

theorem isKeyword_of_isVisibility (h : kind.isVisibility) : kind.isKeyword := by
  cases kind <;> first | rfl | cases h

end ModifierKind

/-! ## The flags of all modifiers together -/

namespace ModifierSet

theorem foldl_accessFlag (items : List Modifier) (flags : UInt32) :
    items.foldl (fun acc i => acc ||| i.kind.accessFlag) flags = flags ||| (mk items).flags := by
  induction items generalizing flags with
  | nil => exact (UInt32.or_zero).symm
  | cons i items ih =>
    rw [ModifierSet.flags, List.foldl_cons, List.foldl_cons, ih, ih, UInt32.zero_or,
      UInt32.or_assoc]

theorem flags_cons (i : Modifier) (items : List Modifier) :
    (mk (i :: items)).flags = i.kind.accessFlag ||| (mk items).flags := by
  rw [ModifierSet.flags, List.foldl_cons, foldl_accessFlag, UInt32.zero_or]

/-- What is set of a mask is set by one of the modifiers. -/
theorem flags_and_ne_zero_iff (m : ModifierSet) (mask : UInt32) :
    m.flags &&& mask ≠ 0 ↔ ∃ i ∈ m.items, i.kind.accessFlag &&& mask ≠ 0 := by
  obtain ⟨items⟩ := m
  induction items with
  | nil => simp [ModifierSet.flags]
  | cons i items ih =>
    rw [flags_cons, UInt32.or_and_ne_zero_iff, ih]
    simp only [List.mem_cons, exists_eq_or_imp]

variable {m m' : ModifierSet} {kind : ModifierKind}

theorem contains_of_mem {i : Modifier} (h : i ∈ m.items) : m.contains i.kind :=
  List.any_eq_true.2 ⟨i, h, beq_self_eq_true _⟩

/-- The bit of a keyword is set exactly if the keyword is among the modifiers. -/
theorem flags_and_accessFlag_iff (m : ModifierSet) (hkind : kind.isKeyword) :
    m.flags &&& kind.accessFlag ≠ 0 ↔ m.contains kind := by
  rw [flags_and_ne_zero_iff, ModifierSet.contains, List.any_eq_true]
  simp only [ModifierKind.accessFlag_and_iff hkind, beq_iff_eq]

theorem flags_and_visibilityMask_iff (m : ModifierSet) :
    m.flags &&& visibilityMask ≠ 0 ↔ m.hasVisibility := by
  rw [flags_and_ne_zero_iff, ModifierSet.hasVisibility, List.any_eq_true]
  simp only [ModifierKind.accessFlag_and_visibilityMask_iff]

/-- A keyword that is among the modifiers adds nothing to their flags. -/
theorem accessFlag_or_flags (h : m.contains kind) : kind.accessFlag ||| m.flags = m.flags := by
  obtain ⟨items⟩ := m
  rw [ModifierSet.contains, List.any_eq_true] at h
  obtain ⟨i, hi, hkind⟩ := h
  obtain rfl := beq_iff_eq.1 hkind
  induction items with
  | nil => cases hi
  | cons j items ih =>
    rw [flags_cons]
    rcases List.mem_cons.1 hi with rfl | hi
    · rw [← UInt32.or_assoc, UInt32.or_self]
    · rw [← UInt32.or_assoc, UInt32.or_comm i.kind.accessFlag, UInt32.or_assoc, ih hi]

/-- Modifiers add nothing to the flags of modifiers with the same keywords and more. -/
theorem flags_or_flags (h : ∀ kind, kind.isKeyword → m.contains kind → m'.contains kind) :
    m.flags ||| m'.flags = m'.flags := by
  have hitems : ∀ i ∈ m.items, i.kind.accessFlag ||| m'.flags = m'.flags := by
    intro i hi
    by_cases hkeyword : i.kind.isKeyword
    · exact accessFlag_or_flags (h i.kind hkeyword (contains_of_mem hi))
    · rw [ModifierKind.accessFlag_eq_zero hkeyword, UInt32.zero_or]
  obtain ⟨items⟩ := m
  clear h
  induction items with
  | nil => exact UInt32.zero_or
  | cons i items ih =>
    obtain ⟨hi, hitems⟩ := List.forall_mem_cons.1 hitems
    rw [flags_cons, UInt32.or_assoc, ih hitems, hi]

/-- Neither the order of keywords nor their number matters to the flags. -/
theorem flags_eq_of_contains_iff
    (h : ∀ kind, kind.isKeyword → (m.contains kind ↔ m'.contains kind)) : m.flags = m'.flags := by
  calc m.flags
      = m'.flags ||| m.flags := (flags_or_flags fun kind hkind => (h kind hkind).2).symm
    _ = m.flags ||| m'.flags := UInt32.or_comm ..
    _ = m'.flags := flags_or_flags fun kind hkind => (h kind hkind).1

end ModifierSet

/-! ## What is written in front of a declaration -/

/-- The annotations in front of a declaration, in order. -/
def Node.attachedAnnotations (d : Node) : List Node :=
  match d.node? .modifiers with
  | some list => (list.nodes .modifier).filterMap (Node.node? · .annotationUse)
  | none => []

/-- A keyword that says who may see a declaration stands in front of it. -/
def Node.HasVisibility (d : Node) : Prop :=
  ∃ kind : ModifierKind, kind.isVisibility ∧ d.HasModifier kind.word

/-- The same keywords stand in front of two declarations, in any order and any number of times. -/
def Node.SameKeywords (d d' : Node) : Prop :=
  ∀ kind : ModifierKind, kind.isKeyword → (d.HasModifier kind.word ↔ d'.HasModifier kind.word)

/-- The declaration that a statement makes, if it makes one. -/
def Stmt.declaration? (stmt : Stmt) : Option Declaration :=
  match stmt.shape with
  | .expression { shape := .declaration declaration, .. } => some declaration
  | _ => none

namespace Scope

variable {s s' : Scope} {d d' : Node} {modifiers modifiers' : ModifierSet}

theorem attached_of_modifier {n : Node} {i : Modifier} (h : s.modifier n = .ok i) :
    (n.node? .annotationUse = none ∧ i.attached = none) ∨
      ∃ child a, n.node? .annotationUse = some child ∧ s.annotationUse child = .ok a ∧
        i.attached = some a := by
  rw [modifier] at h
  cases hn : n.node? .annotationUse with
  | none =>
    rw [hn] at h
    obtain ⟨t, -, h⟩ := exists_of_token h
    split at h
    · cases h
      exact .inl ⟨rfl, rfl⟩
    · cases h
  | some child =>
    rw [hn] at h
    obtain ⟨a, ha, h⟩ := Lowered.exists_of_bind h
    cases h
    exact .inr ⟨child, a, rfl, ha, rfl⟩

theorem mapM_annotationUse_of_mapM {ns : List Node} {items : List Modifier}
    (h : ns.mapM s.modifier = .ok items) :
    (ns.filterMap (Node.node? · .annotationUse)).mapM s.annotationUse =
      .ok (items.filterMap Modifier.attached) := by
  have hsteps := Lowered.forall₂_of_mapM h
  clear h
  induction hsteps with
  | nil => rfl
  | cons hi _ ih =>
    rcases attached_of_modifier hi with ⟨hn, hnone⟩ | ⟨child, a, hn, ha, hsome⟩
    · simpa only [List.filterMap_cons, hn, hnone] using ih
    · simp only [List.filterMap_cons, hn, hsome]
      rw [List.mapM_cons, Lowered.bind_of_ok ha, Lowered.bind_of_ok ih]
      rfl

/-- All annotations are kept, in order. -/
theorem mapM_attachedAnnotations (h : s.modifiers d = .ok modifiers) :
    d.attachedAnnotations.mapM s.annotationUse = .ok modifiers.annotations := by
  rw [Scope.modifiers] at h
  rw [Node.attachedAnnotations]
  cases hn : d.node? .modifiers with
  | none =>
    rw [hn] at h
    cases h
    rfl
  | some list =>
    rw [hn] at h
    obtain ⟨items, hitems, h⟩ := Lowered.exists_of_bind h
    cases h
    exact mapM_annotationUse_of_mapM hitems

theorem hasVisibility_iff (h : s.modifiers d = .ok modifiers) :
    modifiers.hasVisibility ↔ d.HasVisibility := by
  have hword : ∀ kind : ModifierKind, kind.isVisibility →
      (modifiers.contains kind ↔ d.HasModifier kind.word) := fun kind hkind =>
    contains_modifiers_iff h (ModifierKind.ne_annotationUse_of_isKeyword
      (ModifierKind.isKeyword_of_isVisibility hkind))
  rw [ModifierSet.hasVisibility, List.any_eq_true]
  constructor
  · rintro ⟨i, hi, hvisibility⟩
    exact ⟨i.kind, hvisibility, (hword _ hvisibility).1 (ModifierSet.contains_of_mem hi)⟩
  · rintro ⟨kind, hvisibility, hkind⟩
    obtain ⟨i, hi, hik⟩ := List.any_eq_true.1 ((hword _ hvisibility).2 hkind)
    exact ⟨i, hi, by rwa [beq_iff_eq.1 hik]⟩

theorem flags_and_accessFlag_iff (h : s.modifiers d = .ok modifiers) {kind : ModifierKind}
    (hkind : kind.isKeyword) :
    modifiers.flags &&& kind.accessFlag ≠ 0 ↔ d.HasModifier kind.word :=
  (modifiers.flags_and_accessFlag_iff hkind).trans
    (contains_modifiers_iff h (ModifierKind.ne_annotationUse_of_isKeyword hkind))

theorem sameKeywords_iff (h : s.modifiers d = .ok modifiers)
    (h' : s'.modifiers d' = .ok modifiers') :
    d.SameKeywords d' ↔
      ∀ kind : ModifierKind, kind.isKeyword →
        (modifiers.contains kind ↔ modifiers'.contains kind) :=
  forall₂_congr fun kind hkind => by
    have hne := ModifierKind.ne_annotationUse_of_isKeyword hkind
    rw [contains_modifiers_iff h hne, contains_modifiers_iff h' hne]

theorem flags_eq_of_sameKeywords (h : s.modifiers d = .ok modifiers)
    (h' : s'.modifiers d' = .ok modifiers') (hsame : d.SameKeywords d') :
    modifiers.flags = modifiers'.flags :=
  ModifierSet.flags_eq_of_contains_iff ((sameKeywords_iff h h').1 hsame)

/-! ## Parameters, declared names and methods -/

/-- Flags and annotations are those that are written in front of a declaration. -/
structure Modifies (s : Scope) (d : Node) (flags : UInt32) (annotations : List Annotation) :
    Prop where
  /-- The bit of a keyword is set exactly if the keyword is written. -/
  keyword : ∀ kind : ModifierKind, kind.isKeyword →
    (flags &&& kind.accessFlag ≠ 0 ↔ d.HasModifier kind.word)
  /-- The annotations are the written ones, in order. -/
  annotations : d.attachedAnnotations.mapM s.annotationUse = .ok annotations

/-- The flags and annotations of a method are those that are written in front of it, and the bit for
`public` where no keyword says who may see the method. -/
structure ModifiesMethod (s : Scope) (d : Node) (m : MethodDecl) : Prop where
  /-- The bit of a keyword other than `public` is set exactly if the keyword is written. -/
  keyword : ∀ kind : ModifierKind, kind.isKeyword → kind ≠ .publicAccess →
    (m.modifiers &&& kind.accessFlag ≠ 0 ↔ d.HasModifier kind.word)
  publicAccess : m.modifiers &&& ModifierKind.publicAccess.accessFlag ≠ 0 ↔
    d.HasModifier "public" ∨ ¬d.HasVisibility
  /-- Something says who may see the method. -/
  visible : m.modifiers &&& visibilityMask ≠ 0
  /-- A method that is synthetically public is public and nothing else, and no keyword says so. -/
  synthetic : m.syntheticPublic →
    m.modifiers &&& visibilityMask = ModifierKind.publicAccess.accessFlag ∧ ¬d.HasVisibility
  annotations : d.attachedAnnotations.mapM s.annotationUse = .ok m.annotations

theorem modifies_of_modifiers (h : s.modifiers d = .ok modifiers) :
    s.Modifies d modifiers.flags modifiers.annotations where
  keyword _ hkind := flags_and_accessFlag_iff h hkind
  annotations := mapM_attachedAnnotations h

/-- What a method takes from its modifiers. -/
theorem exists_modifiers_of_method {m : MethodDecl} (h : s.method d = .ok m) :
    ∃ modifiers returns, s.modifiers d = .ok modifiers ∧
      m.modifiers = publicUnless modifiers ||| modifiers.flags ∧
      m.annotations = modifiers.annotations ∧
      m.syntheticPublic = (modifiers.visibilityFacts returns false).isSyntheticPublic := by
  obtain ⟨modifiers, hmodifiers, h⟩ := Lowered.exists_of_bind h
  obtain ⟨t, -, h⟩ := exists_of_token h
  obtain ⟨name, -, h⟩ := Lowered.exists_of_bind h
  obtain ⟨returnType, -, h⟩ := Lowered.exists_of_bind h
  obtain ⟨list, -, h⟩ := exists_of_node h
  obtain ⟨parameters, -, h⟩ := Lowered.exists_of_bind h
  obtain ⟨body, -, h⟩ := Lowered.exists_of_bind h
  cases h
  exact ⟨modifiers, _, hmodifiers, rfl, List.nil_append _, rfl⟩

/-- What a parameter takes from its modifiers. -/
theorem exists_modifiers_of_parameter {p : Parameter} (h : s.parameter d = .ok p) :
    ∃ modifiers, s.modifiers d = .ok modifiers ∧ p.modifiers = modifiers.flags ∧
      p.annotations = modifiers.annotations := by
  obtain ⟨modifiers, hmodifiers, h⟩ := Lowered.exists_of_bind h
  obtain ⟨t, -, h⟩ := exists_of_token h
  obtain ⟨type, -, h⟩ := Lowered.exists_of_bind h
  obtain ⟨defaultValue, -, h⟩ := Lowered.exists_of_bind h
  cases h
  exact ⟨modifiers, hmodifiers, UInt32.zero_or, List.nil_append _⟩

/-- What declared names take from the modifiers of their declaration. -/
theorem exists_modifiers_of_localVariable {stmts : List Stmt} (h : s.localVariable d = .ok stmts) :
    ∃ modifiers, s.modifiers d = .ok modifiers ∧ ∀ stmt ∈ stmts, ∃ declaration,
      stmt.declaration? = some declaration ∧ declaration.declared.modifiers = modifiers.flags ∧
      declaration.annotations = modifiers.annotations := by
  obtain ⟨modifiers, hmodifiers, hdeclares, -⟩ := localVariable_declares h
  have hall : ∀ stmt ∈ stmts, ∃ c, s.Declares modifiers [] c stmt :=
    ((List.forall₂_and_left _ _).1 (hdeclares.flip.imp fun stmt c hc => ⟨⟨c, hc⟩, hc⟩)).1
  refine ⟨modifiers, hmodifiers, fun stmt hstmt => ?_⟩
  obtain ⟨c, t, declaration, hdeclared, -, hshape⟩ := hall stmt hstmt
  exact ⟨declaration, by rw [Stmt.declaration?, hshape], hdeclared.flags, hdeclared.annotations⟩

/-- A method is public without the keyword only if no keyword says who may see it. -/
theorem publicUnless_and_iff (modifiers : ModifierSet) (mask : UInt32) :
    publicUnless modifiers &&& mask ≠ 0 ↔
      ¬modifiers.hasVisibility ∧ ModifierKind.publicAccess.accessFlag &&& mask ≠ 0 := by
  rw [publicUnless]
  split
  · next h => simp [h]
  · next h => simp [h]

theorem modifiesMethod_of_method {m : MethodDecl} (h : s.method d = .ok m) :
    s.ModifiesMethod d m := by
  obtain ⟨modifiers, returns, hmodifiers, hflags, hannotations, hsynthetic⟩ :=
    exists_modifiers_of_method h
  have hvisibility := hasVisibility_iff hmodifiers
  have hmask : ∀ mask, m.modifiers &&& mask ≠ 0 ↔
      (¬d.HasVisibility ∧ ModifierKind.publicAccess.accessFlag &&& mask ≠ 0) ∨
        modifiers.flags &&& mask ≠ 0 := by
    intro mask
    rw [hflags, UInt32.or_and_ne_zero_iff, publicUnless_and_iff, hvisibility]
  constructor
  case keyword =>
    intro kind hkind hne
    rw [hmask, ModifierKind.accessFlag_and_iff hkind, flags_and_accessFlag_iff hmodifiers hkind]
    exact or_iff_right fun hpublic => hne hpublic.2.symm
  case publicAccess =>
    rw [hmask, ModifierKind.accessFlag_and_iff rfl, flags_and_accessFlag_iff hmodifiers rfl,
      and_iff_left rfl]
    exact or_comm
  case visible =>
    rw [hmask, modifiers.flags_and_visibilityMask_iff, hvisibility,
      ModifierKind.accessFlag_and_visibilityMask_iff]
    exact (em d.HasVisibility).symm.imp_left fun hnone => ⟨hnone, rfl⟩
  case synthetic =>
    intro hmarked
    have hnone : modifiers.hasVisibility = false := by
      rw [hsynthetic, VisibilityFacts.isSyntheticPublic, Bool.and_eq_true,
        Bool.not_eq_true'] at hmarked
      exact hmarked.1
    have hflags' : modifiers.flags &&& visibilityMask = 0 := by
      by_contra hne
      rw [modifiers.flags_and_visibilityMask_iff.1 hne] at hnone
      cases hnone
    refine ⟨?_, fun hwritten => ?_⟩
    · rw [hflags, UInt32.or_and_distrib, hflags', publicUnless, hnone]
      decide
    · rw [hvisibility.2 hwritten] at hnone
      cases hnone
  case annotations =>
    rw [hannotations]
    exact mapM_attachedAnnotations hmodifiers

/-! ## The same keywords -/

theorem hasVisibility_eq_of_sameKeywords (h : s.modifiers d = .ok modifiers)
    (h' : s'.modifiers d' = .ok modifiers') (hsame : d.SameKeywords d') :
    modifiers.hasVisibility = modifiers'.hasVisibility := by
  rw [Bool.eq_iff_iff, hasVisibility_iff h, hasVisibility_iff h']
  exact exists_congr fun kind => and_congr_right fun hkind =>
    hsame kind (ModifierKind.isKeyword_of_isVisibility hkind)

theorem parameter_flags_eq {p p' : Parameter} (h : s.parameter d = .ok p)
    (h' : s'.parameter d' = .ok p') (hsame : d.SameKeywords d') : p.modifiers = p'.modifiers := by
  obtain ⟨modifiers, hmodifiers, hflags, -⟩ := exists_modifiers_of_parameter h
  obtain ⟨modifiers', hmodifiers', hflags', -⟩ := exists_modifiers_of_parameter h'
  rw [hflags, hflags', flags_eq_of_sameKeywords hmodifiers hmodifiers' hsame]

theorem method_flags_eq {m m' : MethodDecl} (h : s.method d = .ok m) (h' : s'.method d' = .ok m')
    (hsame : d.SameKeywords d') : m.modifiers = m'.modifiers := by
  obtain ⟨modifiers, -, hmodifiers, hflags, -⟩ := exists_modifiers_of_method h
  obtain ⟨modifiers', -, hmodifiers', hflags', -⟩ := exists_modifiers_of_method h'
  rw [hflags, hflags', publicUnless, publicUnless,
    hasVisibility_eq_of_sameKeywords hmodifiers hmodifiers' hsame,
    flags_eq_of_sameKeywords hmodifiers hmodifiers' hsame]

theorem declared_flags_eq {stmts stmts' : List Stmt} (h : s.localVariable d = .ok stmts)
    (h' : s'.localVariable d' = .ok stmts') (hsame : d.SameKeywords d') {stmt stmt' : Stmt}
    (hstmt : stmt ∈ stmts) (hstmt' : stmt' ∈ stmts') :
    stmt.declaration?.map (·.declared.modifiers) =
      stmt'.declaration?.map (·.declared.modifiers) := by
  obtain ⟨modifiers, hmodifiers, hall⟩ := exists_modifiers_of_localVariable h
  obtain ⟨modifiers', hmodifiers', hall'⟩ := exists_modifiers_of_localVariable h'
  obtain ⟨declaration, hdeclaration, hflags, -⟩ := hall stmt hstmt
  obtain ⟨declaration', hdeclaration', hflags', -⟩ := hall' stmt' hstmt'
  rw [hdeclaration, hdeclaration', Option.map_some, Option.map_some, hflags, hflags',
    flags_eq_of_sameKeywords hmodifiers hmodifiers' hsame]

/-- **Access flags encode the written modifiers.**  A parameter and every name of a declaration have
the bits of exactly those keywords that are written in front of them, and all annotations in order.
A method has these and is public unless another keyword says who may see it, and one that is
synthetically public is public without any such keyword.  Keywords in another order, or written
again, give the same flags. -/
theorem flags_of_modifiers (s : Scope) (d : Node) :
    (∀ p, s.parameter d = .ok p → s.Modifies d p.modifiers p.annotations) ∧
    (∀ stmts, s.localVariable d = .ok stmts → ∀ stmt ∈ stmts, ∃ declaration,
      stmt.declaration? = some declaration ∧
      s.Modifies d declaration.declared.modifiers declaration.annotations) ∧
    (∀ m, s.method d = .ok m → s.ModifiesMethod d m) ∧
    ∀ d', d.SameKeywords d' →
      (∀ p p', s.parameter d = .ok p → s.parameter d' = .ok p' → p.modifiers = p'.modifiers) ∧
      (∀ stmts stmts', s.localVariable d = .ok stmts → s.localVariable d' = .ok stmts' →
        ∀ stmt ∈ stmts, ∀ stmt' ∈ stmts',
          stmt.declaration?.map (·.declared.modifiers) =
            stmt'.declaration?.map (·.declared.modifiers)) ∧
      ∀ m m', s.method d = .ok m → s.method d' = .ok m' → m.modifiers = m'.modifiers := by
  refine ⟨fun p h => ?_, fun stmts h stmt hstmt => ?_, fun m h => modifiesMethod_of_method h,
    fun d' hsame => ⟨fun p p' h h' => parameter_flags_eq h h' hsame,
      fun stmts stmts' h h' stmt hstmt stmt' hstmt' => declared_flags_eq h h' hsame hstmt hstmt',
      fun m m' h h' => method_flags_eq h h' hsame⟩⟩
  · obtain ⟨modifiers, hmodifiers, hflags, hannotations⟩ := exists_modifiers_of_parameter h
    rw [hflags, hannotations]
    exact modifies_of_modifiers hmodifiers
  · obtain ⟨modifiers, hmodifiers, hall⟩ := exists_modifiers_of_localVariable h
    obtain ⟨declaration, hdeclaration, hflags, hannotations⟩ := hall stmt hstmt
    refine ⟨declaration, hdeclaration, ?_⟩
    rw [hflags, hannotations]
    exact modifies_of_modifiers hmodifiers

/-- The method `final @A static final void m()` is synthetically public.  Both names of
`def final a, b` are final.  The parameters `final volatile x` and `volatile final volatile x`
have the same flags. -/
theorem flags_of_modifiers_instance :
    let s := outermost 512
    let annotation := Production.annotationModifier (Production.annotationUse ["A"] [])
    let word := Production.modifier
    let method := Production.methodOf [word "final", annotation, word "static", word "final"]
      (some Production.voidReturn) "m" [] [] none
    let declaration := Production.localVariable [word "def", word "final"] none
      [Production.declarator "a" none, Production.declarator "b" none]
    let parameter := fun items => Production.parameterOf items none false "x" none
    let x := parameter [word "final", word "volatile"]
    let x' := parameter [word "volatile", word "final", word "volatile"]
    (∃ m, s.method method = .ok m ∧ s.ModifiesMethod method m ∧ m.syntheticPublic ∧
      m.modifiers &&& visibilityMask = ModifierKind.publicAccess.accessFlag) ∧
    (∃ stmts, s.localVariable declaration = .ok stmts ∧ stmts.length = 2 ∧
      ∀ stmt ∈ stmts, ∃ d, stmt.declaration? = some d ∧
        s.Modifies declaration d.declared.modifiers d.annotations) ∧
    ∃ p p', s.parameter x = .ok p ∧ s.parameter x' = .ok p' ∧
      s.Modifies x p.modifiers p.annotations ∧ p.modifiers = p'.modifiers := by
  intro s annotation word method declaration parameter x x'
  have hmethod : (s.method method).toOption.any MethodDecl.syntheticPublic := by decide +kernel
  have hdeclaration :
      (s.localVariable declaration).toOption.any fun stmts => stmts.length == 2 := by
    decide +kernel
  have hparameter : (s.parameter x).toOption.any fun _ => true := by decide +kernel
  have hparameter' : (s.parameter x').toOption.any fun _ => true := by decide +kernel
  obtain ⟨m, hm, hpublic⟩ := Lowered.exists_of_any hmethod
  obtain ⟨stmts, hstmts, hlength⟩ := Lowered.exists_of_any hdeclaration
  obtain ⟨p, hp, -⟩ := Lowered.exists_of_any hparameter
  obtain ⟨p', hp', -⟩ := Lowered.exists_of_any hparameter'
  have hsame : x.SameKeywords x' := by
    have hx : s.modifiers x = .ok _ := rfl
    have hx' : s.modifiers x' = .ok _ := rfl
    refine (sameKeywords_iff hx hx').2 fun kind _ => ?_
    cases kind <;> decide
  have hmethod := (flags_of_modifiers s method).2.2.1 m hm
  exact ⟨⟨m, hm, hmethod, hpublic, (hmethod.synthetic hpublic).1⟩,
    ⟨stmts, hstmts, beq_iff_eq.1 hlength, (flags_of_modifiers s declaration).2.1 stmts hstmts⟩,
    p, p', hp, hp', (flags_of_modifiers s x).1 p hp,
    ((flags_of_modifiers s x).2.2.2 x' hsame).1 p p' hp hp'⟩

end Scope

end GroovyLowering
