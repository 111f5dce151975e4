import GroovyLowering.Proofs.Comparison.Unit
import GroovyLowering.Proofs.Written.Flat
import GroovyLowering.Proofs.Written.Operator
import GroovyLowering.Proofs.Written.Path

/-!
# A plain expression is written back

By induction on the grammar, a plain expression is lowered at every place with enough levels left,
and what it is lowered to restores its tree (`Plain.restores`).  Each production has its own theorem
in the modules beside this one; the induction only hands them their operands.

A file with the expression as its only statement is lowered as it is put together by hand
(`Plain.lower_file`).  Laying it out moves tokens, which no written form depends on, and adds
nothing but spaces to the source, since a plain expression is flat (`Plain.isFlat`).
-/

namespace GroovyLowering.Source

open Lowered (Restores)

theorem Plain.restores {left : Nat} {n : Node} (h : Plain left n) (limit : Nat) (place : Span) :
    Restores ((Scope.level limit left place).expr n) n := by
  induction h generalizing place with
  | identifier name => exact Scope.restores_identifier _ name
  | boolean value => exact Scope.restores_boolean _ value
  | null => exact Scope.restores_null _
  | thisReference => exact Scope.restores_thisReference _
  | superReference => exact Scope.restores_superReference _
  | integer value => exact Scope.restores_integer _ value
  | parenthesized _ hkind ih => exact Scope.restores_parenthesized (ih _) hkind
  | range _ hop _ iha ihb => exact Scope.restores_range (iha _) hop (ihb _)
  | binary _ hop _ iha ihb => exact Scope.restores_binary (iha _) hop (ihb _)
  | @assignment _ name op e hname hop h ih =>
    obtain ⟨k, rfl⟩ := h.exists_succ
    exact Scope.restores_assignment hname hop (Scope.restores_identifier _ name) (ih _)
  | ternary _ _ _ ihc iha ihb => exact Scope.restores_ternary (ihc _) (iha _) (ihb _)
  | elvis _ _ iha ihb => exact Scope.restores_elvis (iha _) (ihb _)
  | stepAfter _ step ih => exact Scope.restores_stepAfter (ih _) step
  | stepBefore step _ ih => exact Scope.restores_stepBefore step (ih _)
  | sign hop _ hkind ih => exact Scope.restores_sign hop (ih _) hkind
  | negation hop _ ih => exact Scope.restores_negation hop (ih _)
  | cast type _ ih => exact Scope.restores_cast type (ih _)
  | typeTest _ hop type ih => exact Scope.restores_typeTest (ih _) hop type
  | list _ ih => exact Scope.restores_list fun i hi => ih i hi _
  | map _ ih => exact Scope.restores_map fun e he x hx => ih e he x hx _
  | path _ hne hallowed hfit _ ihprimary ih =>
    exact Scope.restores_path (ihprimary _) hne hallowed hfit fun l hl x hx => ih l hl x hx _

/-! ## A file with one expression -/

/-- The tree of a file whose only statement is an expression. -/
def file (e : Node) : Node := Production.unit [Production.expressionStatement e]

theorem Plain.lower_file {left : Nat} {e : Node} (h : Plain left e) {options : LowerOptions}
    (hfits : left < options.maxDepth) :
    ∃ unit r, lower options ⟨file e, []⟩ = .ok unit ∧
      unit.statements.map Stmt.expression? = [some r] ∧ r.Restores e := by
  obtain ⟨k, hk⟩ := Nat.exists_eq_add_of_lt hfits
  let n := Production.expressionStatement e
  let s := Scope.outermost options.maxDepth
  let inner := Scope.level options.maxDepth (left + k) (n.spanOr .fileStart)
  have hplain : Plain (left + k) e := h.mono (Nat.le_add_right left k)
  obtain ⟨r, hr, hrestores⟩ := hplain.restores options.maxDepth (n.spanOr .fileStart)
  let statement : Stmt := { shape := .expression r, span := inner.spanOf n }
  have hdepth : s = Scope.level options.maxDepth (left + k + 1) .fileStart := by
    rw [← hk]
    rfl
  have hstmt : s.stmt n = .ok statement := by
    have hnode : n.node? .expression = some e := rfl
    rw [hdepth]
    show inner.placed n _ = _
    rw [Scope.bind_node hnode, Lowered.bind_of_ok hr]
    rfl
  have hblock : s.blockStatement n = .ok [statement] := by
    rw [Scope.blockStatement_eq]
    show (do return [← s.stmt n]) = _
    rw [Lowered.bind_of_ok hstmt]
    rfl
  have htop : s.topLevel options n = .ok (.statements [statement]) := by
    have hkind : n.kind = .expressionStatement := rfl
    rw [Scope.topLevel, if_neg (by rw [hkind]; decide), Lowered.bind_of_ok hblock]
    rfl
  have hunit : (file e).kind = .compilationUnit := rfl
  have hnodes : (file e).nodes .statement = [n] := rfl
  have himports : (file e).nodes .importDeclaration = [] := rfl
  have hpackage : s.package? (file e) = .ok none := rfl
  refine ⟨⟨none, [], [statement], [], (file e).span⟩, r, ?_, rfl, hrestores⟩
  show lowerUnit options (file e) = _
  rw [lowerUnit, if_pos hunit, Lowered.bind_of_ok hpackage, himports, hnodes, List.mapM_cons,
    Lowered.bind_of_ok htop]
  rfl

/-- The expression that a file is made of keeps its written form when spans are replaced. -/
theorem exists_expression?_of_mapSpans {f : Span → Span} {ss ts : List Stmt} {r : Expr}
    (h : ss.map (Stmt.mapSpans f) = ts.map (Stmt.mapSpans f))
    (hr : ss.map Stmt.expression? = [some r]) :
    ∃ r', ts.map Stmt.expression? = [some r'] ∧ r'.text = r.text := by
  have hmap : ∀ us : List Stmt, (us.map (Stmt.mapSpans f)).map Stmt.expression? =
      (us.map Stmt.expression?).map (Option.map (Expr.mapSpans f)) := by
    intro us
    rw [List.map_map, List.map_map]
    exact List.map_congr_left fun u _ => Stmt.expression?_mapSpans f u
  have hexprs := congrArg (List.map Stmt.expression?) h
  rw [hmap, hmap, hr] at hexprs
  obtain ⟨found, hfound, hmapped⟩ := List.map_eq_singleton_iff.1 hexprs.symm
  obtain ⟨r', rfl, hsame⟩ := Option.map_eq_some_iff.1 hmapped
  refine ⟨r', hfound, ?_⟩
  rw [← Expr.text_mapSpans f r', hsame, Expr.text_mapSpans]

/-- The source of a file with one plain expression is the text of the expression, spaces left
out. -/
theorem Plain.unspaced_source {left : Nat} {e : Node} (h : Plain left e) :
    unspaced (file e).layOut.source = unspaced e.text := by
  have hsource : (file e).layOut.source = (e.place {}).2.text := rfl
  rw [hsource, Node.unspaced_place e {} h.isFlat]
  rfl

/-- **A plain expression is written back.**  In a file that is laid out, every plain expression
whose nesting the limit allows is lowered, and its written form is the source, spaces left out. -/
theorem Plain.lower_layOut {left : Nat} {e : Node} (h : Plain left e) (options : LowerOptions)
    (hfits : left < options.maxDepth) :
    ∃ unit r, lower options ⟨(file e).layOut.root, []⟩ = .ok unit ∧
      unit.statements.map Stmt.expression? = [some r] ∧
      unspaced r.text = unspaced (file e).layOut.source := by
  obtain ⟨unit, r, hlower, hstatements, hrestores⟩ := h.lower_file hfits
  have hrelaid : (file e).Relaid (file e).layOut.root := (file e).relaid_place {}
  have hagree := Comparison.Agree.lower (C := .relaid) (.refl options) hrelaid []
  obtain ⟨unit', hlower', hunits⟩ := hagree.exists_ok hlower
  obtain ⟨r', hstatements', htext⟩ :=
    exists_expression?_of_mapSpans (congrArg CompilationUnit.statements hunits) hstatements
  refine ⟨unit', r', hlower', hstatements', ?_⟩
  rw [htext, hrestores.text, h.unspaced_source]

/-- A call on a safe member of a variable, with a sum and a map among its arguments, and a subscript
with two indices behind it. -/
theorem Plain.lower_layOut_call :
    let sum := Production.binary (Production.identifier "x") "+" (Production.integer "12")
    let map := Production.map [Production.entry (Production.identifier "k") Production.null,
      Production.spreadEntry (Production.identifier "m")]
    let e := Production.path (Production.identifier "a") [Production.member "?." "b",
      Production.call [sum, map],
      Production.index [Production.element (Production.integer "0"),
        Production.spreadElement (Production.identifier "c")]]
    Plain 3 e ∧ 3 < ({} : LowerOptions).maxDepth ∧
      ∃ unit r, lower {} ⟨(file e).layOut.root, []⟩ = .ok unit ∧
        unit.statements.map Stmt.expression? = [some r] ∧
        unspaced r.text = unspaced (file e).layOut.source := by
  intro sum map e
  have hsum : Plain 2 sum := by
    have hop : BinaryOp.plus.bracket? = none := rfl
    exact .binary (.identifier "x") hop (.integer 12)
  have hmap : Plain 2 map := by
    let entries : List Entry := [.labelled (Production.identifier "k") Production.null,
      .spread (Production.identifier "m")]
    have hentries : ∀ e ∈ entries, ∀ x ∈ e.exprs, Plain 1 x := by
      simp only [entries, Entry.exprs, List.forall_mem_cons]
      exact ⟨⟨.identifier "k", .null, List.forall_mem_nil _⟩,
        ⟨.identifier "m", List.forall_mem_nil _⟩, List.forall_mem_nil _⟩
    exact .map hentries
  have he : Plain 3 e := by
    let links : List Link := [.member "?." "b", .call [sum, map],
      .subscript false [⟨false, Production.integer "0"⟩, ⟨true, Production.identifier "c"⟩]]
    have hallowed : ∀ l ∈ links, l.Allowed := by
      simp only [links, List.forall_mem_cons, Link.Allowed]
      refine ⟨by decide, trivial, fun e heq => ?_, List.forall_mem_nil _⟩
      exact List.cons_ne_nil _ _ (List.cons.inj heq).2
    have hfit : CallsFit (NamesMethod (Production.identifier "a")) links :=
      ⟨False.elim, fun _ hpointer => absurd hpointer (by decide), False.elim, trivial⟩
    have hexprs : ∀ l ∈ links, ∀ x ∈ l.exprs, Plain 2 x := by
      simp only [links, Link.exprs, List.forall_mem_cons, List.map_cons]
      exact ⟨List.forall_mem_nil _, ⟨hsum, hmap, List.forall_mem_nil _⟩,
        ⟨.integer 0, .identifier "c", List.forall_mem_nil _⟩, List.forall_mem_nil _⟩
    exact .path (.identifier "a") (List.cons_ne_nil _ _) hallowed hfit hexprs
  exact ⟨he, by decide, he.lower_layOut {} (by decide)⟩

end GroovyLowering.Source
