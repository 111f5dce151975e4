import GroovyLowering.Proofs.Written.Basic
import GroovyLowering.Proofs.Written.Grammar

/-!
# Elements, entries and arguments are written back

A list, a map, a subscript and arguments are lowered element by element.  Each element is lowered
to something with the text of its tree, and the commas between them are the same on both sides
(`commas_eq`).

The key of an entry is where an expression changes: a plain name becomes a constant.  Its text is
the name either way (`Expr.text_asKey`).
-/

namespace GroovyLowering

open Source (Item Entry)

/-! ## Lists with commas -/

/-- What corresponds one by one has the same texts with commas between them. -/
theorem commas_eq {α β : Type} {R : α → β → Prop} {f : α → Node} {g : β → String} {xs : List α}
    {ys : List β} (h : List.Forall₂ R xs ys)
    (htext : ∀ x y, R x y → unspaced (g y) = unspaced (f x).text) :
    unspaced (", ".intercalate (ys.map g)) =
      [','].intercalate ((xs.map f).map fun n => unspaced n.text) := by
  have hmap : (ys.map g).map unspaced = (xs.map f).map fun n => unspaced n.text := by
    induction h with
    | nil => rfl
    | cons hxy _ ih =>
      simp only [List.map_cons, htext _ _ hxy] at ih ⊢
      rw [ih]
  rw [unspaced_intercalate, unspaced_comma, hmap]

/-! ## Keys -/

/-- A name that becomes the key of an entry is written as before. -/
theorem Expr.text_asKey (e : Expr) : e.asKey.text = e.text := by
  rw [asKey]
  split
  · next v hv =>
    split
    · rfl
    · next hbare =>
      obtain ⟨shape, span, parenthesized⟩ := e
      cases shape with
      | name =>
        cases hv
        rw [text_eq, text_eq]
        simp only [Bool.not_eq_true] at hbare
        simp only [hbare]
        rfl
      | _ => cases hv
  · rfl

theorem Expr.standsAlone_asKey {e : Expr} (h : e.shape.standsAlone) :
    e.asKey.shape.standsAlone = true := by
  rw [asKey]
  split
  · split
    · exact h
    · rfl
  · exact h

namespace Scope

open Lowered (Restores)

variable {s : Scope}

/-! ## Elements -/

/-- What an element of a list is lowered to. -/
def RestoresItem (i : Item) (e : Expr) : Prop :=
  unspaced e.text = unspaced i.node.text ∧ (i.spread = false → e.shape.standsAlone = true)

theorem restores_item {i : Item} (h : Restores (s.expr i.expr) i.expr) :
    ∃ e, s.element i.node = .ok e ∧ RestoresItem i e := by
  obtain ⟨spread, n⟩ := i
  obtain ⟨e, he, hrestores⟩ := h
  cases spread with
  | false =>
    have hnode : (Production.element n).node? .expression = some n := rfl
    refine ⟨e.withSpan (Production.element n).span, ?_, ?_, fun _ => hrestores.standsAlone⟩
    · show s.element (Production.element n) = _
      rw [element, bind_node hnode, Lowered.bind_of_ok he]
      rfl
    · rw [Expr.text_withSpan, hrestores.text]
      simp [Item.node, Production.element]
  | true =>
    have hnode : (Production.spreadElement n).node? .expression = some n := rfl
    refine ⟨{ shape := .spread e, span := (Production.spreadElement n).span }, ?_, ?_,
      fun hspread => absurd hspread.symm Bool.false_ne_true⟩
    · show s.element (Production.spreadElement n) = _
      rw [element, bind_node hnode, Lowered.bind_of_ok he]
      rfl
    · rw [Expr.text_eq]
      simp [inParentheses, ExprShape.text, Item.node, Production.spreadElement, hrestores.text]

theorem restores_items {n : Node} {items : List Item}
    (hn : n.nodes .element = items.map Item.node)
    (h : ∀ i ∈ items, Restores (s.expr i.expr) i.expr) :
    ∃ es, s.elements n = .ok es ∧ List.Forall₂ RestoresItem items es := by
  rw [elements, hn, List.mapM_map]
  exact Lowered.exists_mapM fun i hi => restores_item (h i hi)

theorem unspaced_exprTexts {items : List Item} {es : List Expr}
    (h : List.Forall₂ RestoresItem items es) :
    unspaced (", ".intercalate (exprTexts es)) =
      [','].intercalate ((items.map Item.node).map fun n => unspaced n.text) := by
  rw [exprTexts_eq]
  exact commas_eq h fun _ _ hie => hie.1

theorem restores_list {items : List Item} (h : ∀ i ∈ items, Restores (s.expr i.expr) i.expr) :
    Restores (s.expression (Production.list (items.map Item.node)))
      (Production.list (items.map Item.node)) := by
  have hnodes : (Production.list (items.map Item.node)).nodes .element = items.map Item.node := by
    simp [Production.list, Node.withList]
  obtain ⟨es, hes, hitems⟩ := restores_items hnodes h
  generalize hn : Production.list (items.map Item.node) = n at hes ⊢
  have hkind : n.kind = .list := by
    rw [← hn]
    simp [Production.list, Node.withList]
  have hx : s.expression n = .ok { shape := .list es false, span := s.spanOf n } := by
    simp only [expression, hkind]
    rw [Scope.list, Lowered.bind_of_ok hes]
    rfl
  refine .of_shape hx rfl (by rw [hkind]; rfl) ?_
  rw [ExprShape.text, unspaced_append, unspaced_append, unspaced_exprTexts hitems, ← hn]
  simp [Production.list]

/-! ## Subscripts -/

/-- The elements of a subscript have no brackets of their own, unless one of them is spread and
alone. -/
theorem restores_subscript {items : List Item} {n : Node}
    (hn : n.nodes .element = items.map Item.node) (halone : ∀ e, items ≠ [⟨true, e⟩])
    (h : ∀ i ∈ items, Restores (s.expr i.expr) i.expr) :
    ∃ e, s.subscript n = .ok e ∧ unspaced e.subscriptText =
      [','].intercalate ((items.map Item.node).map fun n => unspaced n.text) := by
  obtain ⟨es, hes, hitems⟩ := restores_items hn h
  refine ⟨indexOf n.span es, ?_, ?_⟩
  · rw [subscript, Lowered.bind_of_ok hes]
    rfl
  · by_cases hlength : es.length = 1
    · obtain ⟨e, rfl⟩ := List.length_eq_one_iff.1 hlength
      obtain ⟨i, _, hie, hnil, rfl⟩ := List.forall₂_cons_right_iff.1 hitems
      cases hnil
      obtain ⟨spread, x⟩ := i
      cases spread with
      | true => exact absurd rfl (halone x)
      | false =>
        have hproper : e.shape.standsAlone = true := hie.2 rfl
        have hmoved : (e.withSpan n.span).shape.standsAlone = true := hproper
        rw [indexOf_singleton hproper, Expr.subscriptText_eq hmoved, Expr.text_withSpan, hie.1]
        simp
    · rw [subscriptText_indexOf hlength, unspaced_exprTexts hitems]

/-! ## Entries -/

/-- The label of an entry is lowered to a key with the text of the label. -/
theorem exists_key {label : Node} (h : Restores (s.expr label) label) :
    ∃ key, s.key ((Node.bare .mapEntryLabel).withNode .primary label) = .ok key ∧
      key.shape.standsAlone = true ∧ unspaced key.text = unspaced label.text := by
  obtain ⟨e, he, hrestores⟩ := h
  generalize hn : (Node.bare .mapEntryLabel).withNode .primary label = n
  have hnode : n.node? .primary = some label := by rw [← hn]; rfl
  have htoken : n.token? .keyword = none := by rw [← hn]; rfl
  refine ⟨e.asKey.withSpan n.span, ?_, Expr.standsAlone_asKey hrestores.standsAlone, ?_⟩
  · rw [key, htoken]
    dsimp only
    rw [bind_node hnode, Lowered.bind_of_ok he]
    rfl
  · rw [Expr.text_withSpan, Expr.text_asKey, hrestores.text]

theorem restores_labelled {label value : Node} (hlabel : Restores (s.expr label) label)
    (hvalue : Restores (s.expr value) value) :
    ∃ m, s.mapEntry (Production.entry label value) = .ok m ∧
      unspaced m.text = unspaced (Production.entry label value).text := by
  obtain ⟨key, hkey, halone, hkeyText⟩ := exists_key hlabel
  obtain ⟨e, he, hrestores⟩ := hvalue
  have hvalueNode : (Production.entry label value).node? .value = some value := rfl
  have hlabelNode : (Production.entry label value).node? .label =
      some ((Node.bare .mapEntryLabel).withNode .primary label) := rfl
  have hspread : (Production.entry label value).has .spread = false := rfl
  refine ⟨⟨key, e, (Production.entry label value).span⟩, ?_, ?_⟩
  · rw [mapEntry, bind_node hvalueNode, Lowered.bind_of_ok he, hspread]
    simp only [Bool.false_eq_true, if_false]
    rw [bind_node hlabelNode, Lowered.bind_of_ok hkey]
    rfl
  · rw [MapEntry.text, Expr.isSpreadKey_eq halone]
    simp [hkeyText, hrestores.text, Production.entry]

theorem restores_keyword (word : String) {value : Node} (h : Restores (s.expr value) value) :
    ∃ m, s.mapEntry (Production.keywordEntry word value) = .ok m ∧
      unspaced m.text = unspaced (Production.keywordEntry word value).text := by
  obtain ⟨e, he, hrestores⟩ := h
  have hvalueNode : (Production.keywordEntry word value).node? .value = some value := rfl
  let place := ((Node.bare .mapEntryLabel).keyword word).span
  refine ⟨⟨.symbol word place, e, (Production.keywordEntry word value).span⟩, ?_, ?_⟩
  · rw [mapEntry, bind_node hvalueNode, Lowered.bind_of_ok he]
    rfl
  · rw [MapEntry.text, Expr.isSpreadKey_eq rfl]
    simp [hrestores.text, Production.keywordEntry, Node.keyword]

theorem restores_spreadEntry {value : Node} (h : Restores (s.expr value) value) :
    ∃ m, s.mapEntry (Production.spreadEntry value) = .ok m ∧
      unspaced m.text = unspaced (Production.spreadEntry value).text := by
  obtain ⟨e, he, hrestores⟩ := h
  have hvalueNode : (Production.spreadEntry value).node? .value = some value := rfl
  let place := (Production.spreadEntry value).span
  refine ⟨⟨{ shape := .spreadMap e, span := place }, e, place⟩, ?_, ?_⟩
  · rw [mapEntry, bind_node hvalueNode, Lowered.bind_of_ok he]
    rfl
  · rw [MapEntry.text]
    simp only [Expr.isSpreadKey, if_true]
    rw [Expr.text_eq]
    simp [inParentheses, ExprShape.text, hrestores.text, Production.spreadEntry]

theorem restores_entry {entry : Entry} (h : ∀ x ∈ entry.exprs, Restores (s.expr x) x) :
    ∃ m, s.mapEntry entry.node = .ok m ∧ unspaced m.text = unspaced entry.node.text := by
  cases entry with
  | labelled label value =>
    have hlabel := h label List.mem_cons_self
    exact restores_labelled hlabel (h value (List.mem_cons_of_mem _ List.mem_cons_self))
  | keyword word value => exact restores_keyword word (h value List.mem_cons_self)
  | spread value => exact restores_spreadEntry (h value List.mem_cons_self)

theorem restores_entries {n : Node} {entries : List Entry}
    (hn : n.nodes .entry = entries.map Entry.node)
    (h : ∀ e ∈ entries, ∀ x ∈ e.exprs, Restores (s.expr x) x) :
    ∃ ms, s.mapEntries n = .ok ms ∧
      List.Forall₂ (fun e m => unspaced m.text = unspaced e.node.text) entries ms := by
  rw [mapEntries, hn, List.mapM_map]
  exact Lowered.exists_mapM fun e he => restores_entry (h e he)

theorem unspaced_entryTexts {entries : List Entry} {ms : List MapEntry}
    (h : List.Forall₂ (fun e m => unspaced m.text = unspaced e.node.text) entries ms) :
    unspaced (", ".intercalate (entryTexts ms)) =
      [','].intercalate ((entries.map Entry.node).map fun n => unspaced n.text) := by
  rw [entryTexts_eq]
  exact commas_eq h fun _ _ hem => hem

theorem text_map {ms : List MapEntry} (h : ms ≠ []) :
    (ExprShape.map ms).text = "[" ++ ", ".intercalate (entryTexts ms) ++ "]" := by
  cases ms with
  | nil => exact absurd rfl h
  | cons m ms => rfl

theorem restores_map {entries : List Entry}
    (h : ∀ e ∈ entries, ∀ x ∈ e.exprs, Restores (s.expr x) x) :
    Restores (s.expression (Production.map (entries.map Entry.node)))
      (Production.map (entries.map Entry.node)) := by
  cases entries with
  | nil =>
    have hx : s.expression (Production.map []) =
        .ok { shape := .map [], span := s.spanOf (Production.map []) } := rfl
    exact .of_shape hx rfl rfl rfl
  | cons entry entries =>
    generalize hall : entry :: entries = all at h ⊢
    have hopened : Production.map (all.map Entry.node) =
        (((Node.bare .map).punct "[").withList .entry (all.map Entry.node)).punct "]" := by
      rw [← hall]
      rfl
    have hnodes : (Production.map (all.map Entry.node)).nodes .entry = all.map Entry.node := by
      rw [hopened]
      simp [Node.withList]
    obtain ⟨ms, hms, hentries⟩ := restores_entries hnodes h
    generalize hn : Production.map (all.map Entry.node) = n at hms hopened ⊢
    have hkind : n.kind = .map := by
      rw [hopened]
      simp [Node.withList]
    have hx : s.expression n = .ok { shape := .map ms, span := s.spanOf n } := by
      simp only [expression, hkind]
      rw [Scope.map, Lowered.bind_of_ok hms]
      rfl
    refine .of_shape hx rfl (by rw [hkind]; rfl) ?_
    have hne : ms ≠ [] := by
      rintro rfl
      cases hentries
      cases hall
    rw [text_map hne, unspaced_append, unspaced_append, unspaced_entryTexts hentries, hopened]
    simp

/-! ## Arguments in parentheses -/

/-- An argument list is lowered to arguments whose text has the parentheses that the list may be
written without. -/
theorem restores_argumentList {args : List Node} (h : ∀ a ∈ args, Restores (s.expr a) a) :
    ∃ x, s.argumentList (Production.argumentList args) = .ok x ∧
      unspaced x.text = unspaced ("(" ++ (Production.argumentList args).text ++ ")") := by
  let items := args.map (Item.mk false)
  generalize hargs : Production.argumentList args = list
  have hlist : list = (Node.bare .argumentList).withList .element (items.map Item.node) := by
    simp [← hargs, items, Production.argumentList, Item.node, Function.comp_def]
  have hnodes : list.nodes .element = items.map Item.node := by
    rw [hlist]
    simp [Node.withList]
  have hentry : list.has .entry = false := by
    rw [hlist]
    simp [Node.withList]
  have hitems : ∀ i ∈ items, Restores (s.expr i.expr) i.expr := by
    intro i hi
    obtain ⟨a, ha, rfl⟩ := List.mem_map.1 hi
    exact h a ha
  obtain ⟨es, hes, hitems⟩ := restores_items hnodes hitems
  refine ⟨.positional es list.span, ?_, ?_⟩
  · rw [argumentList, hentry]
    simp only [Bool.false_eq_true, if_false]
    rw [Lowered.bind_of_ok hes]
    rfl
  · rw [Arguments.text, unspaced_append, unspaced_append, unspaced_exprTexts hitems, hlist]
    simp

theorem restores_namedArgumentList {entries : List Entry} (hne : entries ≠ [])
    (h : ∀ e ∈ entries, ∀ x ∈ e.exprs, Restores (s.expr x) x) :
    ∃ x, s.argumentList (Production.namedArgumentList (entries.map Entry.node)) = .ok x ∧
      unspaced x.text =
        unspaced ("(" ++ (Production.namedArgumentList (entries.map Entry.node)).text ++ ")") := by
  generalize hlist : Production.namedArgumentList (entries.map Entry.node) = list
  have hnodes : list.nodes .entry = entries.map Entry.node := by
    simp [← hlist, Production.namedArgumentList, Node.withList]
  have hentry : list.has .entry = true := by
    simp [← hlist, Production.namedArgumentList, Node.withList, hne]
  obtain ⟨ms, hms, hentries⟩ := restores_entries hnodes h
  refine ⟨.named ms list.span, ?_, ?_⟩
  · rw [argumentList, hentry]
    simp only [if_true]
    rw [Lowered.bind_of_ok hms]
    rfl
  · rw [Arguments.text, unspaced_append, unspaced_append, unspaced_entryTexts hentries, ← hlist]
    simp [Production.namedArgumentList]

/-- Arguments in parentheses are restored where the list inside is. -/
theorem restores_inParentheses {n list : Node} (hlist : n.node? .list = some list)
    (htext : n.text = "(" ++ list.text ++ ")")
    (h : ∃ x, s.argumentList list = .ok x ∧
      unspaced x.text = unspaced ("(" ++ list.text ++ ")")) :
    ∃ arguments, s.arguments n = .ok arguments ∧ unspaced arguments.text = unspaced n.text := by
  obtain ⟨x, hx, hxtext⟩ := h
  refine ⟨x.withSpan n.span, ?_, ?_⟩
  · rw [arguments, hlist]
    dsimp only
    rw [Lowered.bind_of_ok hx]
    rfl
  · rw [Arguments.text_withSpan, hxtext, htext]

theorem restores_arguments {args : List Node} (h : ∀ a ∈ args, Restores (s.expr a) a) :
    ∃ arguments, s.arguments (Production.arguments args) = .ok arguments ∧
      unspaced arguments.text = unspaced (Production.arguments args).text := by
  cases args with
  | nil => exact ⟨_, rfl, rfl⟩
  | cons a args =>
    refine restores_inParentheses rfl ?_ (restores_argumentList h)
    simp [Production.arguments]

theorem restores_namedArguments {entries : List Entry}
    (h : ∀ e ∈ entries, ∀ x ∈ e.exprs, Restores (s.expr x) x) :
    ∃ arguments, s.arguments (Production.namedArguments (entries.map Entry.node)) = .ok arguments ∧
      unspaced arguments.text =
        unspaced (Production.namedArguments (entries.map Entry.node)).text := by
  cases entries with
  | nil => exact ⟨_, rfl, rfl⟩
  | cons entry entries =>
    refine restores_inParentheses rfl ?_ (restores_namedArgumentList (List.cons_ne_nil _ _) h)
    simp [Production.namedArguments]

end Scope

end GroovyLowering
