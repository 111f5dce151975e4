import GroovyLowering.Lower.Level
import GroovyLowering.Proofs.Construct
import GroovyLowering.Proofs.Literal.Segment
import GroovyLowering.Proofs.Step

/-!
# Reading interpolated strings back

An interpolated string is written piece by piece: one in front of the values, one between each two
of them and one behind them.  `Pieces.WrittenIn` says how a style writes them.  Segment by segment
they are read back as the constants they were written for (`Segment.opening_body`,
`Segment.part_body`, `Segment.closing_body`), and the text of the whole has constants and values in
turn (`Pieces.verbatimText_eq`).

A tree with the values between the tokens of the pieces is of this kind, for any number of values
(`Pieces.writtenIn_node`).
-/

namespace GroovyLowering

open Literal

/-- A constant of an interpolated string, with the token that holds it. -/
structure Piece where
  /-- The token. -/
  token : Token
  /-- What the constant is. -/
  value : List Char

/-- The constant that a piece is written for. -/
def Piece.expr (piece : Piece) : Expr := .symbol (String.ofList piece.value) piece.token.span

/-- The constants of an interpolated string with at least one value. -/
structure Pieces where
  /-- The piece in front of the values. -/
  first : Piece
  /-- The pieces between the values. -/
  middle : List Piece
  /-- The piece behind the values. -/
  last : Piece

namespace Pieces

/-- The pieces behind a value. -/
def rest (p : Pieces) : List Piece := p.middle ++ [p.last]

/-- The constants, in order. -/
def constants (p : Pieces) : List Expr := (p.first :: p.rest).map Piece.expr

/-- The constants with the values between them, each behind a dollar. -/
def verbatim (p : Pieces) (values : List Expr) : String :=
  String.ofList p.first.value ++
    String.join (List.zipWith (fun value piece => "$" ++ value.text ++ String.ofList piece.value)
      values p.rest)

/-- A node holds the pieces as a style writes them. -/
structure WrittenIn (p : Pieces) (style : StringStyle) (n : Node) : Prop where
  kind : n.kind = .gstring
  opening : n.token? .opening = some p.first.token
  openingText : p.first.token.text =
    String.ofList (style.opening ++ style.body p.first.value ++ ['$'])
  parts : n.tokens .part = p.middle.map Piece.token
  partText : ∀ piece ∈ p.middle,
    piece.token.text = String.ofList (style.body piece.value ++ ['$'])
  closing : n.token? .closing = some p.last.token
  closingText : p.last.token.text = String.ofList (style.body p.last.value ++ style.closing)

/-! ## The text -/

/-- Constants and values are taken in turn as long as there are as many of both behind the first
constant. -/
theorem verbatimText_cons (first : Piece) (rest : List Piece) {values : List Expr}
    (h : values.length = rest.length) :
    verbatimText ((first :: rest).map Piece.expr) values =
      String.ofList first.value ++
        String.join (List.zipWith
          (fun value piece => "$" ++ value.text ++ String.ofList piece.value) values rest) := by
  induction rest generalizing first values with
  | nil =>
    cases List.length_eq_zero_iff.1 h
    rfl
  | cons next rest ih =>
    obtain ⟨value, values, rfl⟩ := List.exists_cons_of_length_eq_add_one h
    have hrest := ih next (Nat.succ.inj h)
    rw [List.map_cons] at hrest ⊢
    rw [List.map_cons, verbatimText, hrest, List.zipWith_cons_cons, String.join_cons]
    show String.ofList first.value ++ "$" ++ value.text ++ _ = _
    simp only [String.append_assoc]

theorem verbatimText_eq (p : Pieces) {values : List Expr}
    (h : values.length = p.middle.length + 1) :
    verbatimText p.constants values = p.verbatim values :=
  verbatimText_cons p.first p.rest (by rw [h, rest, List.length_append, List.length_singleton])

/-! ## The segments -/

theorem segment_eq {decode : List Char → List Char} {piece : Piece} {cs : List Char}
    (htext : piece.token.text = String.ofList cs) (hdecode : decode cs = piece.value) :
    Scope.segment decode piece.token = piece.expr := by
  rw [Scope.segment, htext, String.toList_ofList, hdecode, Piece.expr]

/-- The strings of a node are the constants that it is written for. -/
theorem WrittenIn.segments_eq {p : Pieces} {style : StringStyle} {n : Node}
    (h : p.WrittenIn style n) (hstyle : style.interpolates) :
    Scope.segment (Segment.opening style.escapeMode) p.first.token ::
        ((n.tokens .part).map (Scope.segment (Segment.part style.escapeMode)) ++
          [Scope.segment (Segment.closing style.escapeMode) p.last.token]) =
      p.constants := by
  have hparts : (n.tokens .part).map (Scope.segment (Segment.part style.escapeMode)) =
      p.middle.map Piece.expr := by
    rw [h.parts, List.map_map]
    refine List.map_congr_left fun piece hpiece => ?_
    exact segment_eq (h.partText piece hpiece) (Segment.part_body style piece.value)
  rw [segment_eq h.openingText (Segment.opening_body hstyle p.first.value), hparts,
    segment_eq h.closingText (Segment.closing_body hstyle p.last.value), constants, rest,
    List.map_cons, List.map_append, List.map_singleton]

end Pieces

namespace Production

/-! ## Values between tokens -/

variable {role : Role} (n : Node)

/-- What holds of a node and is kept by one more value and by one more part holds of the whole. -/
theorem withValues_induction {P : Node → Prop} {n : Node} (hn : P n)
    (hvalue : ∀ m c, P m → P (m.withNode .value c))
    (hpart : ∀ m text, P m → P (m.write .part .gstringPart text)) (values : List Node)
    (parts : List String) : P (withValues n values parts) := by
  induction values generalizing n parts with
  | nil =>
    rw [withValues]
    exact hn
  | cons value values ih =>
    have hnext := hvalue n value hn
    cases parts with
    | nil => exact ih hnext []
    | cons part parts =>
      rw [withValues]
      split
      · exact hnext
      · exact ih (hpart _ part hnext) parts

theorem kind_withValues (values : List Node) (parts : List String) :
    (withValues n values parts).kind = n.kind :=
  withValues_induction (P := fun m => m.kind = n.kind) rfl (fun _ _ h => h) (fun _ _ h => h)
    values parts

theorem tokens_withValues_of_ne (hrole : role ≠ .part) (values : List Node) (parts : List String) :
    (withValues n values parts).tokens role = n.tokens role := by
  refine withValues_induction (P := fun m => m.tokens role = n.tokens role) rfl ?_ ?_ values parts
  · intro m c hm
    rw [Node.tokens_withNode, hm]
  · intro m text hm
    rw [Node.tokens_write, hm, if_neg hrole.symm, List.append_nil]

theorem nodes_withValues (values : List Node) (parts : List String) :
    (withValues n values parts).nodes .value = n.nodes .value ++ values := by
  induction values generalizing n parts with
  | nil => simp [withValues]
  | cons value values ih =>
    cases parts with
    | nil => simp [withValues, ih]
    | cons part parts => cases values <;> simp [withValues, ih]

/-- Between each two values stands a part.  Parts behind the last value are left out. -/
theorem tokens_part_withValues (values : List Node) (parts : List String) :
    (withValues n values parts).tokens .part =
      n.tokens .part ++ (parts.take (values.length - 1)).map (Token.unplaced .gstringPart) := by
  induction values generalizing n parts with
  | nil => simp [withValues]
  | cons value values ih =>
    cases parts with
    | nil => simp [withValues, ih]
    | cons part parts =>
      cases values with
      | nil => simp [withValues]
      | cons next values =>
        rw [withValues, List.isEmpty_cons, if_neg Bool.false_ne_true, ih]
        simp

/-! ## Interpolated strings -/

variable (opening closing : String) (values : List Node) (parts : List String)

theorem kind_gstring : (gstring opening values parts closing).kind = .gstring :=
  kind_withValues _ values parts

theorem token?_opening_gstring :
    (gstring opening values parts closing).token? .opening =
      some (.unplaced .gstringBegin opening) := by
  simp [gstring, Node.token?, tokens_withValues_of_ne]

theorem token?_closing_gstring :
    (gstring opening values parts closing).token? .closing =
      some (.unplaced .gstringEnd closing) := by
  simp [gstring, Node.token?, tokens_withValues_of_ne]

theorem tokens_part_gstring :
    (gstring opening values parts closing).tokens .part =
      (parts.take (values.length - 1)).map (Token.unplaced .gstringPart) := by
  rw [gstring, Node.tokens_write, tokens_part_withValues]
  simp

theorem nodes_value_gstring : (gstring opening values parts closing).nodes .value = values := by
  simp [gstring, nodes_withValues]

end Production

namespace Pieces

/-- The pieces that a style writes for constants. -/
def of (style : StringStyle) (first : List Char) (middle : List (List Char)) (last : List Char) :
    Pieces where
  first := ⟨.unplaced .gstringBegin (String.ofList (style.opening ++ style.body first ++ ['$'])),
    first⟩
  middle := middle.map fun value =>
    ⟨.unplaced .gstringPart (String.ofList (style.body value ++ ['$'])), value⟩
  last := ⟨.unplaced .gstringEnd (String.ofList (style.body last ++ style.closing)), last⟩

/-- The interpolated string with values between the tokens of pieces. -/
def node (p : Pieces) (values : List Node) : Node :=
  Production.gstring p.first.token.text values (p.middle.map fun piece => piece.token.text)
    p.last.token.text

/-- However many values there are, the tree with the pieces that a style writes between them holds
these pieces, and the values in order. -/
theorem writtenIn_node (style : StringStyle) (first : List Char) (middle : List (List Char))
    (last : List Char) (values : List Node) (h : values.length = middle.length + 1) :
    (of style first middle last).WrittenIn style ((of style first middle last).node values) ∧
      ((of style first middle last).node values).nodes .value = values := by
  have hcount : values.length =
      ((of style first middle last).middle.map fun piece => piece.token.text).length + 1 := by
    rw [h, List.length_map, of, List.length_map]
  have hparts : (of style first middle last).middle.map
      (Token.unplaced .gstringPart ∘ fun piece => piece.token.text) =
        (of style first middle last).middle.map Piece.token := by
    rw [of, List.map_map, List.map_map]
    rfl
  have htake : ((of style first middle last).middle.map fun piece => piece.token.text).take
      (values.length - 1) = (of style first middle last).middle.map fun piece =>
        piece.token.text :=
    List.take_of_length_le (by omega)
  constructor
  · exact {
      kind := Production.kind_gstring ..
      opening := Production.token?_opening_gstring ..
      openingText := rfl
      parts := by
        rw [node, Production.tokens_part_gstring, htake, List.map_map, hparts]
      partText := by
        intro piece hpiece
        obtain ⟨value, _, rfl⟩ := List.mem_map.1 hpiece
        rfl
      closing := Production.token?_closing_gstring ..
      closingText := rfl }
  · exact Production.nodes_value_gstring ..

end Pieces

/-- **Interpolated strings are read back.**  In each of the four styles, pieces with values between
them are lowered to the constants that the pieces are written for and to the lowered values, both in
order.  The text has a dollar and a value between each two constants. -/
theorem gstring_reads_back {style : StringStyle} (hstyle : style.interpolates) {p : Pieces}
    {n : Node} (hn : p.WrittenIn style n) {s : Scope} {values : List Expr}
    (hvalues : List.Forall₂ (fun c value => s.gstringValue c = .ok value) (n.nodes .value) values)
    (hcount : (n.nodes .value).length = p.middle.length + 1) :
    s.expression n =
      .ok { shape := .gstring (p.verbatim values) p.constants values, span := n.span } := by
  have hmode : EscapeMode.of p.first.token.text.toList = style.escapeMode := by
    rw [hn.openingText, String.toList_ofList, List.append_assoc, Segment.of_opening]
  have htext : verbatimText p.constants values = p.verbatim values :=
    p.verbatimText_eq (hvalues.length_eq.symm.trans hcount)
  rw [Scope.expression, hn.kind]
  show s.gstring n = _
  rw [Scope.gstring, Scope.bind_token hn.opening, Scope.bind_token hn.closing]
  dsimp only
  rw [hmode, hn.segments_eq hstyle, Lowered.bind_of_ok (Lowered.mapM_of_forall₂ hvalues), htext]
  rfl

/-- A dotted name and empty braces between constants of dollars, slashes and a line end. -/
theorem gstring_reads_back_dollarSlashy :
    let p := Pieces.of .dollarSlashy ['$', '/'] [['\\', '$']] ['\r', '\n', '/']
    let n := p.node [Production.gstringPath "a" ["b"], Production.gstringEmpty]
    ∃ values, (Scope.outermost 512).expression n =
        .ok { shape := .gstring (p.verbatim values) p.constants values, span := n.span } ∧
      p.verbatim values = "$/$a.b\\$$null\r\n/" := by
  intro p n
  have hn := Pieces.writtenIn_node .dollarSlashy ['$', '/'] [['\\', '$']] ['\r', '\n', '/']
    [Production.gstringPath "a" ["b"], Production.gstringEmpty] rfl
  have hstyle : StringStyle.dollarSlashy.interpolates := trivial
  exact ⟨_, gstring_reads_back hstyle hn.1 (.cons rfl (.cons rfl .nil)) rfl, by decide⟩

end GroovyLowering
