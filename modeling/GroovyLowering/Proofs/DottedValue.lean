import GroovyLowering.Proofs.GString
import GroovyLowering.Proofs.Path

/-!
# Dotted names in interpolated strings

A dotted name in an interpolated string, as in `$name.a.b`, is a fold over its tokens, and in braces
it is a path like any other.  Both make the same properties of the name, one per part
(`Scope.exists_pathElements_dots`).

So a string may have the one or the other for a value (`Scope.gstring_dotted`).  The path in braces
needs two levels, one for itself and one for its primary, where the dotted name needs none.
-/

namespace GroovyLowering

/-- What corresponds to a member of a list stands at the same place. -/
theorem exists_getElem?_of_forall₂ {α β : Type} {R : α → β → Prop} {x : α} {front back : List α}
    {ys : List β} (h : List.Forall₂ R (front ++ x :: back) ys) :
    ∃ y, ys[front.length]? = some y ∧ R x y := by
  induction front generalizing ys with
  | nil =>
    obtain - | ⟨hxy, -⟩ := h
    exact ⟨_, rfl, hxy⟩
  | cons z front ih =>
    obtain - | ⟨-, h⟩ := h
    exact ih h

/-! ## The trees -/

namespace Production

theorem tokens_foldl_write (n : Node) (r role : Role) (kind : TokenKind) (texts : List String) :
    (texts.foldl (fun n text => n.write r kind text) n).tokens role =
      n.tokens role ++ if r = role then texts.map (Token.unplaced kind) else [] := by
  induction texts generalizing n with
  | nil => simp
  | cons text texts ih =>
    rw [List.foldl_cons, ih, Node.tokens_write, List.append_assoc]
    by_cases h : r = role <;> simp [h]

/-- The tokens of the parts of a dotted name, with their dots. -/
def pathParts (parts : List String) : List Token :=
  parts.map fun part => .unplaced .gstringPathPart ("." ++ part)

theorem exists_path_gstringPath (name : String) (parts : List String) :
    ∃ path, (gstringPath name parts).node? .path = some path ∧
      path.token? .identifier = some (.unplaced .identifier name) ∧
      path.tokens .pathPart = pathParts parts := by
  have hfold : parts.foldl (fun n part => n.write .pathPart .gstringPathPart ("." ++ part))
        ((Node.bare .gstringPath).write .identifier .identifier name) =
      (parts.map ("." ++ ·)).foldl (fun n text => n.write .pathPart .gstringPathPart text)
        ((Node.bare .gstringPath).write .identifier .identifier name) := by
    rw [List.foldl_map]
  refine ⟨_, rfl, ?_, ?_⟩
  · rw [hfold, Node.token?, tokens_foldl_write]
    rfl
  · rw [hfold, tokens_foldl_write, if_pos rfl, List.map_map]
    rfl

/-- A dotted name in braces. -/
def bracedPath (name : String) (parts : List String) : Node :=
  gstringExpression (path (identifier name) (parts.map dot))

end Production

/-! ## The value -/

/-- The property of an object, without a place. -/
def Expr.member (object : Expr) (name : String) : Expr :=
  { shape := .property { object, member := .symbol name .fileStart }, span := .fileStart }

/-- What a dotted name stands for, without places. -/
def Expr.dottedName (name : String) (parts : List String) : Expr :=
  parts.foldl Expr.member (.named name .fileStart)

namespace Scope

open Comparison

/-- A token with a dot in front makes a property. -/
theorem eraseSpans_dotted (a : Expr) (part : String) :
    (a.dotted (.unplaced .gstringPathPart ("." ++ part))).eraseSpans =
      a.eraseSpans.member part := by
  have htext : ("." ++ part).toList = '.' :: part.toList := by
    rw [String.toList_append]
    rfl
  rw [Expr.dotted, Token.text_unplaced, htext]
  simp [Expr.eraseSpans, Expr.member, Expr.symbol_mapSpans]

theorem eraseSpans_foldl_dotted (a : Expr) (parts : List String) :
    ((Production.pathParts parts).foldl Expr.dotted a).eraseSpans =
      parts.foldl Expr.member a.eraseSpans := by
  induction parts generalizing a with
  | nil => rfl
  | cons part parts ih =>
    rw [List.foldl_cons, ← eraseSpans_dotted]
    exact ih _

/-- A member behind a dot makes a property. -/
theorem exists_pathElement_dot (s : Scope) (a : Expr) (part : String) :
    ∃ e, s.pathElement a (Production.dot part) = .ok e ∧
      e.eraseSpans = a.eraseSpans.member part := by
  refine ⟨_, rfl, ?_⟩
  simp [Expr.eraseSpans, Expr.member, Expr.symbol_mapSpans]

theorem exists_pathElements_dots (s : Scope) (a : Expr) (parts : List String) :
    ∃ e, s.pathElements a (parts.map Production.dot) = .ok e ∧
      e.eraseSpans = parts.foldl Expr.member a.eraseSpans := by
  induction parts generalizing a with
  | nil => exact ⟨a, rfl, rfl⟩
  | cons part parts ih =>
    obtain ⟨b, hb, hmember⟩ := exists_pathElement_dot s a part
    obtain ⟨e, he, hrest⟩ := ih b
    refine ⟨e, ?_, ?_⟩
    · rw [List.map_cons, pathElements_cons, Lowered.bind_of_ok hb, he]
    · rw [hrest, hmember, List.foldl_cons]

/-- A dotted name is lowered without another level. -/
theorem exists_gstringValue_path (s : Scope) (name : String) (parts : List String) :
    ∃ v, s.gstringValue (Production.gstringPath name parts) = .ok v ∧
      v.eraseSpans = Expr.dottedName name parts := by
  obtain ⟨path, hpath, hname, hparts⟩ := Production.exists_path_gstringPath name parts
  have hlower : s.gstringPath path = .ok ((Production.pathParts parts).foldl Expr.dotted
      (.named name (Token.unplaced .identifier name).span)) := by
    rw [gstringPath, bind_token hname, hparts]
    rfl
  refine ⟨((Production.pathParts parts).foldl Expr.dotted (.named name
    (Token.unplaced .identifier name).span)).withSpan (Production.gstringPath name parts).span,
    ?_, ?_⟩
  · rw [gstringValue, hpath]
    dsimp only
    rw [Lowered.bind_of_ok hlower]
    rfl
  · rw [Expr.eraseSpans_withSpan, eraseSpans_foldl_dotted]
    rfl

/-- The same name in braces takes two levels. -/
theorem exists_gstringValue_braced (limit left : Nat) (place : Span) (name : String)
    (parts : List String) :
    ∃ v, (level limit (left + 2) place).gstringValue (Production.bracedPath name parts) = .ok v ∧
      v.eraseSpans = Expr.dottedName name parts := by
  obtain ⟨q, r, hpath⟩ := exists_expr_path limit (left + 1) place (Production.identifier name)
    (parts.map Production.dot)
  have hprimary : ∃ a, (level limit (left + 1) q).expr (Production.identifier name) = .ok a ∧
      a.eraseSpans = .named name .fileStart := ⟨_, rfl, rfl⟩
  obtain ⟨a, ha, herased⟩ := hprimary
  obtain ⟨e, he, hsame⟩ := exists_pathElements_dots (level limit (left + 1) q) a parts
  rw [Lowered.bind_of_ok ha, Lowered.bind_of_ok he] at hpath
  have hnone : (Production.bracedPath name parts).node? .path = none := rfl
  have hchild : (Production.bracedPath name parts).node? .expression =
      some (Production.path (Production.identifier name) (parts.map Production.dot)) := rfl
  refine ⟨(e.withSpan r).withSpan (Production.bracedPath name parts).span, ?_, ?_⟩
  · rw [gstringValue, hnone, hchild]
    dsimp only
    rw [Lowered.bind_of_ok hpath]
    rfl
  · rw [Expr.eraseSpans_withSpan, Expr.eraseSpans_withSpan, hsame, herased]
    rfl

theorem exists_gstringValue_of_moved {c d : Node} (h : c.Moved d) {limit left : Nat} {place : Span}
    {v : Expr} (hv : (level limit left place).gstringValue d = .ok v) :
    ∃ v', (level limit left place).gstringValue c = .ok v' ∧ v'.eraseSpans = v.eraseSpans := by
  obtain ⟨v', hv', hsame⟩ :=
    ((Scopes.elsewhere limit left place place).gstringValue (Eq.symm h)).exists_ok hv
  exact ⟨v', hv', hsame.symm⟩

/-! ## The string -/

/-- A string one level in: its values, then its text. -/
theorem exists_expr_gstring (opening closing : String) (pieces : List String) (count : Nat) :
    ∃ strings, ∀ (limit left : Nat) (place : Span) (values : List Node), values.length = count →
      ∃ q, (level limit (left + 1) place).expr (Production.gstring opening values pieces closing) =
        values.mapM (level limit left q).gstringValue >>= fun vs =>
          pure { shape := .gstring (verbatimText strings vs) strings vs,
                 span := (Production.gstring opening values pieces closing).span } := by
  let first := Token.unplaced .gstringBegin opening
  let last := Token.unplaced .gstringEnd closing
  let mode := Literal.EscapeMode.of opening.toList
  refine ⟨segment (Literal.Segment.opening mode) first ::
    (((pieces.take (count - 1)).map (Token.unplaced .gstringPart)).map
      (segment (Literal.Segment.part mode)) ++ [segment (Literal.Segment.closing mode) last]), ?_⟩
  rintro limit left place values rfl
  refine ⟨(Production.gstring opening values pieces closing).spanOr place, ?_⟩
  show (level limit left _).expression (Production.gstring opening values pieces closing) = _
  rw [expression, Production.kind_gstring]
  show (level limit left _).gstring (Production.gstring opening values pieces closing) = _
  rw [gstring, bind_token (Production.token?_opening_gstring ..),
    bind_token (Production.token?_closing_gstring ..), Production.tokens_part_gstring,
    Production.nodes_value_gstring]
  rfl

/-- What a string is lowered to has a value for each value of the string. -/
theorem exists_values_of_gstring {opening closing : String} {pieces : List String}
    {values : List Node} {limit left : Nat} {place : Span} {e : Expr}
    (h : (level limit (left + 1) place).expr (Production.gstring opening values pieces closing) =
      .ok e) :
    ∃ q text strings vs, e.shape = .gstring text strings vs ∧
      List.Forall₂ (fun c v => (level limit left q).gstringValue c = .ok v) values vs := by
  obtain ⟨strings, hstrings⟩ := exists_expr_gstring opening closing pieces values.length
  obtain ⟨q, hexpr⟩ := hstrings limit left place values rfl
  rw [hexpr] at h
  obtain ⟨vs, hvs, h⟩ := Lowered.exists_of_bind h
  cases h
  exact ⟨q, _, strings, vs, rfl, Lowered.forall₂_of_mapM hvs⟩

/-- The text of a string and its values do not depend on spans. -/
theorem exists_gstring_of_eraseSpans_eq {e e' : Expr} {text : String} {strings values : List Expr}
    (h : e.eraseSpans = e'.eraseSpans) (hshape : e.shape = .gstring text strings values) :
    ∃ strings' values', e'.shape = .gstring text strings' values' ∧
      values.map Expr.eraseSpans = values'.map Expr.eraseSpans := by
  have hsame := (Expr.mapSpans_eq_iff.1 h).1
  rw [hshape] at hsame
  obtain ⟨shape, span, parenthesized⟩ := e'
  cases shape with
  | gstring text' strings' values' =>
    obtain ⟨rfl, -, hvalues⟩ := ExprShape.gstring.inj hsame
    rw [mapSpansInExprs_eq, mapSpansInExprs_eq] at hvalues
    exact ⟨strings', values', rfl, hvalues⟩
  | _ => cases hsame

/-- A dotted name and the same name in braces. -/
inductive DottedAlike (name : String) (parts : List String) : Node → Node → Prop where
  /-- Any other value stands on both sides. -/
  | same (c : Node) : DottedAlike name parts c c
  | dotted : DottedAlike name parts (Production.gstringPath name parts)
    (Production.bracedPath name parts)

variable {name : String} {parts : List String}

/-- Where two levels are left, strings with the one or the other for a value are lowered alike. -/
theorem eraseSpans_expr_gstring {values values' : List Node}
    (hvalues : List.Forall₂ (DottedAlike name parts) values values') (opening closing : String)
    (pieces : List String) (limit left : Nat) (place place' : Span) :
    Lowered.eraseSpans ((level limit (left + 3) place).expr
        (Production.gstring opening values pieces closing)) =
      Lowered.eraseSpans ((level limit (left + 3) place').expr
        (Production.gstring opening values' pieces closing)) := by
  obtain ⟨strings, hstrings⟩ := exists_expr_gstring opening closing pieces values.length
  obtain ⟨q, hexpr⟩ := hstrings limit (left + 2) place values rfl
  obtain ⟨q', hexpr'⟩ := hstrings limit (left + 2) place' values' hvalues.length_eq.symm
  refine Agree.eq_elsewhere ?_
  rw [hexpr, hexpr']
  refine Agree.bind (k := List.map (Expr.mapSpans elsewhere.span))
    (Agree.mapM hvalues fun c d hcd => ?_) fun xs ys hxys => Agree.pure ?_
  · cases hcd with
    | same c => exact (Scopes.elsewhere limit (left + 2) q q').gstringValue c.moved_refl
    | dotted =>
      obtain ⟨v, hv, hmeans⟩ := exists_gstringValue_path (level limit (left + 2) q) name parts
      obtain ⟨v', hv', hmeans'⟩ := exists_gstringValue_braced limit left q' name parts
      rw [hv, hv']
      exact Agree.ok (hmeans.trans hmeans'.symm)
  · have htext : verbatimText strings xs = verbatimText strings ys :=
      verbatimText_eq (C := .elsewhere) rfl hxys
    have hvs : xs.map (Expr.mapSpans elsewhere.span) = ys.map (Expr.mapSpans elsewhere.span) := hxys
    simp [htext, mapSpansInExprs_eq, hvs]

/-- **A dotted name in a string is the same name in braces.**  The two values are lowered to the
same properties of the name, one per part.  Strings that differ in such a value only are lowered to
the same expression or refused with the same error, spans aside, wherever their tokens stand.  They
have the same text. -/
theorem gstring_dotted {front back : List Node} {opening closing : String} {pieces : List String}
    {n m : Node}
    (hn : n.Moved (Production.gstring opening
      (front ++ Production.gstringPath name parts :: back) pieces closing))
    (hm : m.Moved (Production.gstring opening
      (front ++ Production.bracedPath name parts :: back) pieces closing))
    (limit left : Nat) (place place' : Span) :
    (∀ c d, c.Moved (Production.gstringPath name parts) →
      d.Moved (Production.bracedPath name parts) →
      ∃ v v', (level limit (left + 2) place).gstringValue c = .ok v ∧
        (level limit (left + 2) place').gstringValue d = .ok v' ∧
        v.eraseSpans = Expr.dottedName name parts ∧ v'.eraseSpans = Expr.dottedName name parts) ∧
    Lowered.eraseSpans ((level limit (left + 3) place).expr n) =
      Lowered.eraseSpans ((level limit (left + 3) place').expr m) ∧
    ∀ e, (level limit (left + 3) place).expr n = .ok e →
      ∃ e' text strings strings' values values',
        (level limit (left + 3) place').expr m = .ok e' ∧
        e.shape = .gstring text strings values ∧ e'.shape = .gstring text strings' values' ∧
        values.map Expr.eraseSpans = values'.map Expr.eraseSpans ∧
        values[front.length]?.map Expr.eraseSpans = some (Expr.dottedName name parts) := by
  have hvalues : List.Forall₂ (DottedAlike name parts)
      (front ++ Production.gstringPath name parts :: back)
      (front ++ Production.bracedPath name parts :: back) :=
    List.rel_append (List.forall₂_same.2 fun c _ => .same c)
      (.cons .dotted (List.forall₂_same.2 fun c _ => .same c))
  have hsame : Lowered.eraseSpans ((level limit (left + 3) place).expr n) =
      Lowered.eraseSpans ((level limit (left + 3) place').expr m) := by
    rw [eraseSpans_expr_of_moved hn limit (left + 3) place place,
      eraseSpans_expr_of_moved hm limit (left + 3) place' place']
    exact eraseSpans_expr_gstring hvalues opening closing pieces limit left place place'
  refine ⟨fun c d hc hd => ?_, hsame, fun e he => ?_⟩
  · obtain ⟨v, hv, hmeans⟩ :=
      exists_gstringValue_path (level limit (left + 2) place) name parts
    obtain ⟨v', hv', hmeans'⟩ := exists_gstringValue_braced limit left place' name parts
    obtain ⟨w, hw, hsame⟩ := exists_gstringValue_of_moved hc hv
    obtain ⟨w', hw', hsame'⟩ := exists_gstringValue_of_moved hd hv'
    exact ⟨w, w', hw, hw', hsame.trans hmeans, hsame'.trans hmeans'⟩
  · obtain ⟨e', he', heq⟩ := Lowered.exists_ok_of_eraseSpans_eq hsame he
    obtain ⟨e₀, he₀, heq₀⟩ := Lowered.exists_ok_of_eraseSpans_eq
      (eraseSpans_expr_of_moved hn limit (left + 3) place place) he
    obtain ⟨q, text, strings₀, vs, hshape₀, hlowered⟩ := exists_values_of_gstring he₀
    obtain ⟨strings, values, hshape, hvs⟩ := exists_gstring_of_eraseSpans_eq heq₀.symm hshape₀
    obtain ⟨strings', values', hshape', hvs'⟩ := exists_gstring_of_eraseSpans_eq heq hshape
    refine ⟨e', text, strings, strings', values, values', he', hshape, hshape', hvs', ?_⟩
    obtain ⟨v, hv, hlowered⟩ := exists_getElem?_of_forall₂ hlowered
    obtain ⟨v', hv', hmeans⟩ := exists_gstringValue_path (level limit (left + 2) q) name parts
    obtain rfl : v = v' := Except.ok.inj (hlowered.symm.trans hv')
    rw [← List.getElem?_map, ← hvs, List.getElem?_map, hv, Option.map_some, hmeans]

/-- The strings `"${}, $a.b.c"` and `"${}, ${a.b.c}"` in a file. -/
theorem gstring_dotted_behind_value :
    let string := fun value =>
      Production.gstring "\"$" [Production.gstringEmpty, value] [", $"] "\""
    let dotted := (string (Production.gstringPath "a" ["b", "c"])).layOut.root
    let braced := (string (Production.bracedPath "a" ["b", "c"])).layOut.root
    ∃ e e' text strings strings' values values', (outermost 512).expr dotted = .ok e ∧
      (outermost 512).expr braced = .ok e' ∧ e.eraseSpans = e'.eraseSpans ∧
      e.shape = .gstring text strings values ∧ e'.shape = .gstring text strings' values' ∧
      values[1]?.map Expr.eraseSpans = some (Expr.dottedName "a" ["b", "c"]) := by
  intro string dotted braced
  obtain ⟨e, he, -⟩ := Lowered.exists_of_any (x := (outermost 512).expr dotted)
    (p := fun _ => true) (by decide +kernel)
  have hdotted : dotted.Moved (Production.gstring "\"$"
      ([Production.gstringEmpty] ++ [Production.gstringPath "a" ["b", "c"]]) [", $"] "\"") :=
    Node.moved_layOut _
  have hbraced : braced.Moved (Production.gstring "\"$"
      ([Production.gstringEmpty] ++ [Production.bracedPath "a" ["b", "c"]]) [", $"] "\"") :=
    Node.moved_layOut _
  obtain ⟨-, hsame, hall⟩ := gstring_dotted hdotted hbraced 512 509 .fileStart .fileStart
  obtain ⟨e', text, strings, strings', values, values', he', hshape, hshape', -, hvalue⟩ :=
    hall e he
  have herased : e.eraseSpans = e'.eraseSpans := by
    obtain ⟨e₂, he₂, heq⟩ := Lowered.exists_ok_of_eraseSpans_eq hsame he
    obtain rfl : e₂ = e' := Except.ok.inj (he₂.symm.trans he')
    exact heq
  exact ⟨e, e', text, strings, strings', values, values', he, he', herased, hshape, hshape',
    hvalue⟩

end Scope

end GroovyLowering
