import GroovyLowering.Proofs.Invariant.Basic

/-!
# Calls keep an invariant

Most constructs only put operands together.  The calls of a path take their receiver apart first:
a member becomes the method of a call, and a call gets one more argument.  What they build has the
property since the parts of the receiver have it (`Invariant.Sound.applyArguments`,
`Invariant.Sound.applyClosure`).
-/

namespace GroovyLowering

namespace Invariant

variable {I : Invariant} {k : Nat} {span : Span}

/-! ## Expressions without parts -/

theorem sound_symbol (I : Invariant) (k : Nat) (text : String) (span : Span) :
    I.Sound k (.symbol text span) :=
  sound rfl rfl trivial all_nil

theorem sound_constant (I : Invariant) (k : Nat) (c : Constant) (span : Span) :
    I.Sound k (.constant c span) :=
  sound rfl rfl trivial all_nil

theorem sound_named (I : Invariant) (k : Nat) (name : String) (span : Span) :
    I.Sound k (.named name span) :=
  sound rfl rfl trivial all_nil

theorem sound_nothing (I : Invariant) (k : Nat) (span : Span) : I.Sound k (.nothing span) :=
  sound rfl rfl trivial all_nil

/-! ## Calls -/

theorem sound_methodCall {call : Call} (hcall : call.WellFormed) (hobject : I.Sound k call.object)
    (hmethod : I.Sound k call.method) (harguments : I.All k call.arguments.parts) :
    I.Sound k { shape := .methodCall call, span } :=
  sound rfl rfl hcall (all_cons.2 ⟨hobject, all_cons.2 ⟨hmethod, harguments⟩⟩)

/-- A call of a member drops the weaker kind of safety where the member has both. -/
theorem sound_call {access : Access} {arguments : Arguments} (hobject : I.Sound k access.object)
    (hmember : I.Sound k access.member) (harguments : I.All k arguments.parts) :
    I.Sound k (access.call arguments span) := by
  have hsafety : (access.safe && !access.spreadSafe && access.spreadSafe) = false := by
    cases access.spreadSafe <;> simp
  exact sound_methodCall (Call.wellFormed_of_explicit hsafety rfl) hobject hmember harguments

/-- What is called as a method is never a variable. -/
theorem asVariable?_asMethod (e : Expr) : e.asMethod.asVariable? = none := by
  rw [Expr.asMethod]
  split
  · rfl
  · assumption

theorem sound_asName (I : Invariant) (k : Nat) (e : Expr) : I.Sound k e.asName := by
  rw [Expr.asName]
  split <;> exact sound_symbol I k _ _

/-- The parts of a receiver that is a member. -/
theorem sound_access {e : Expr} {access : Access} (h : I.Sound k e)
    (hshape : e.shape = .property access ∨ e.shape = .field access) :
    I.Sound k access.object ∧ I.Sound k access.member := by
  have hparts := h.parts
  rcases hshape with hshape | hshape
  · rw [hshape] at hparts
    exact all_pair.1 hparts
  · rw [hshape] at hparts
    exact all_pair.1 hparts

namespace Sound

variable {e e' closure : Expr} {arguments : Arguments}

theorem asMethod (h : I.Sound k e) : I.Sound k e.asMethod := by
  rw [Expr.asMethod]
  split
  · exact sound_symbol I k _ _
  · exact h

theorem asKey (h : I.Sound k e) : I.Sound k e.asKey := by
  rw [Expr.asKey]
  split
  · split
    · exact h
    · exact sound_symbol I k _ _
  · exact h

theorem callValue (h : I.Sound k e) (harguments : I.All k arguments.parts) :
    I.Sound k (e.callValue arguments span) :=
  sound_methodCall (Call.wellFormed_of_explicit rfl rfl) h (sound_symbol I k _ _) harguments

theorem callOnThis (h : I.Sound k e) (harguments : I.All k arguments.parts) :
    I.Sound k (e.callOnThis arguments span) := by
  refine sound_methodCall ⟨rfl, ?_⟩ (sound_named I k _ _) h.asMethod harguments
  intro _
  exact ⟨⟨_, rfl, rfl⟩, asVariable?_asMethod e, rfl, rfl, rfl⟩

theorem applyArguments (h : I.Sound k e) (harguments : I.All k arguments.parts)
    (he : e.applyArguments arguments span = .ok e') : I.Sound k e' := by
  have hvalue : I.Sound k (e.callValue arguments span) := h.callValue harguments
  have hthis : I.Sound k (e.callOnThis arguments span) := h.callOnThis harguments
  unfold Expr.applyArguments at he
  split at he
  · next access hshape =>
    cases he
    have hrule := h.rule
    have hparts := h.parts
    rw [hshape] at hrule hparts
    -- As a field it has the same object and member, but it is no longer taken of every element.
    have hone : Access.WellFormed { access with spreadSafe := false } :=
      Access.wellFormed_of_one rfl
    exact callValue (sound rfl rfl ⟨hone, hrule.2⟩ hparts) harguments
  · next access hshape =>
    cases he
    obtain ⟨hobject, hmember⟩ := sound_access h (.inl hshape)
    exact sound_call hobject hmember harguments
  · cases he
    exact hvalue
  · cases he
    exact hvalue
  · split at he
    · cases he
      exact callValue (sound_symbol I k _ _) harguments
    · split at he
      · cases he
      · cases he
        exact hthis
  · cases he
    exact hthis
  · split at he
    · cases he
      exact hthis
    · cases he
      exact hvalue
  · cases he
    exact hvalue

theorem withClosure (harguments : I.All k arguments.parts) (hclosure : I.Sound k closure) :
    I.All k (arguments.withClosure closure).parts := by
  cases arguments with
  | positional args place =>
    rw [Arguments.withClosure, Arguments.parts, List.map_append, all_append]
    exact ⟨harguments, all_singleton.2 hclosure⟩
  | named entries place =>
    have hmap : I.Sound k { shape := .map entries, span := place } :=
      sound rfl rfl trivial harguments
    exact all_pair.2 ⟨hmap, hclosure⟩

theorem applyClosure (h : I.Sound k e) (hclosure : I.Sound k closure) :
    I.Sound k (e.applyClosure closure span) := by
  have halone : I.All k (Arguments.positional [closure] closure.span).parts :=
    all_singleton.2 hclosure
  unfold Expr.applyClosure
  split
  · next call hshape =>
    have hrule := h.rule
    have hparts := h.parts
    rw [hshape] at hrule hparts
    obtain ⟨hobject, hparts⟩ := all_cons.1 hparts
    obtain ⟨hmethod, harguments⟩ := all_cons.1 hparts
    exact sound_methodCall ⟨hrule.safety, hrule.implicitThis⟩ hobject hmethod
      (withClosure harguments hclosure)
  · next access hshape =>
    obtain ⟨hobject, hmember⟩ := sound_access h (.inl hshape)
    exact sound_call hobject hmember halone
  · next access hshape =>
    obtain ⟨hobject, hmember⟩ := sound_access h (.inr hshape)
    exact sound_call hobject hmember halone
  · split
    · exact h.callValue halone
    · exact h.callOnThis halone
  · exact h.callOnThis halone

end Sound

end Invariant

end GroovyLowering
