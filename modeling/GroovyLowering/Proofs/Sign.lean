import GroovyLowering.Lower.Unit
import GroovyLowering.Proofs.Construct
import GroovyLowering.Proofs.Literal.Minus
import GroovyLowering.Proofs.Step
import GroovyLowering.Proofs.Tokens
import GroovyLowering.Tree.Construct.Declaration
import GroovyLowering.Tree.Layout

/-!
# Signs in front of a literal

A sign in front of a constant is folded into it.  Two ways of negating meet here.  A minus sign
directly in front of a literal is read together with its text, and every other one flips the sign of
the number that its operand was lowered to.  `Number.FlippedTo` is what both keep: the value of an
integer, whichever type it has, and the text of an exact decimal.  So any number of signs is folded
without losing the value (`Node.HasSigns.folds`).

The operand is lowered before the sign is looked at.  Therefore a literal that fits its type only
with a minus sign is refused although the two could be read together, and these literals are the
only ones (`Node.IsSigned.reads_minus`).
-/

namespace GroovyLowering

namespace Literal

/-! ## Literals without a sign -/

variable {text : String} {number m : Number}

theorem startsWithMinus_of_opensWith (hopens : opensWith Char.isDigit text) :
    startsWithMinus text = false := by
  obtain ⟨c, _, hcons, hdigit⟩ := exists_cons_of_opensWith hopens
  rw [startsWithMinus, splitMinus.eq_def]
  split
  · next rest htext =>
    rw [htext] at hcons
    cases hcons
    cases hdigit
  · rfl

theorem opensWith_isOpening_of_isDigit (hopens : opensWith Char.isDigit text) :
    opensWith Decimal.isOpening text := by
  obtain ⟨c, rest, hcons, hdigit⟩ := exists_cons_of_opensWith hopens
  rw [opensWith, hcons]
  simp [Decimal.isOpening, hdigit]

/-- An integer literal that fits its type only with a minus sign. -/
inductive IsLeastMagnitude (text : String) : Prop where
  | integer (h : IsInteger (withoutUnderscores text.toList) (2 ^ 31) (some .integer))
  | long (h : IsInteger (withoutUnderscores text.toList) (2 ^ 63) (some .long))

theorem IsLeastMagnitude.readInteger_eq (h : IsLeastMagnitude text) :
    readInteger text = .error (.outOfRange text) := by
  cases h with
  | integer h => exact readInteger_of_isInteger h
  | long h => exact readInteger_of_isInteger h

/-- A literal that can be read with a minus sign and not without fits its type only with it. -/
theorem isLeastMagnitude_of_minus {error : NumberError} (hopens : opensWith Char.isDigit text)
    (hminus : readInteger ("-" ++ text) = .ok m) (h : readInteger text = .error error) :
    IsLeastMagnitude text := by
  obtain ⟨magnitude, suffix, hinteger, hnegative⟩ := exists_magnitude hopens (.inr hminus)
  have hread := readAs_readInteger hinteger
  have hreadMinus := readAs_readInteger hnegative
  rw [h] at hread
  rw [hminus] at hreadMinus
  cases hread with
  | noInteger hnone =>
    cases hreadMinus with
    | integer hw =>
      have hout := not_range_int32 hnone
      have hrange := range_int32 hw
      obtain rfl : magnitude = 2 ^ 31 := by omega
      exact .integer hinteger
  | noLong hnone =>
    cases hreadMinus with
    | long hw =>
      have hout := not_range_int64 hnone
      have hrange := range_int64 hw
      obtain rfl : magnitude = 2 ^ 63 := by omega
      exact .long hinteger

theorem startsWithMinus_bigDecimal {exact : String} (hopens : opensWith Char.isDigit text)
    (h : readDecimal text = .ok (.bigDecimal exact)) : startsWithMinus exact = false := by
  obtain ⟨c, rest, htext, hdigit⟩ := exists_cons_of_opensWith hopens
  have hc : Decimal.isOpening c = true := by rw [Decimal.isOpening, hdigit, Bool.true_or]
  obtain ⟨front, suffix, hsplit⟩ := exists_splitSuffix_cons hc rest
  rw [← htext] at hsplit
  obtain ⟨d, _, hexact⟩ := (readDecimal_eq_ok_iff hsplit).1 h
  have hne : c ≠ '-' := Decimal.ne_of_isOpening hc (by decide)
  have hnormal : startsWithMinus (String.ofList (Decimal.normalize (c :: front))) = false := by
    rw [startsWithMinus, String.toList_ofList, Decimal.normalize_cons hc, splitMinus_of_ne hne]
  rcases suffix with _ | _ | _ | _
  · cases hexact
    exact hnormal
  · cases hexact
  · cases hexact
  · cases hexact
    exact hnormal

/-! ## Flipping the sign several times -/

theorem flipMinus_eq (h : startsWithMinus text = false) : flipMinus text = "-" ++ text := by
  rw [flipMinus, Number.negateText.eq_def]
  split
  · next rest htext =>
    rw [startsWithMinus, htext] at h
    cases h
  · rw [← String.toList_inj, String.toList_ofList, String.toList_append]
    rfl

/-- A text with a minus sign in front if the sign is flipped an odd number of times. -/
def signedText (times : Nat) (text : String) : String :=
  if times % 2 = 1 then "-" ++ text else text

theorem negate_signedText (h : startsWithMinus text = false) (times : Nat) :
    Number.negate (.bigDecimal (signedText times text)) =
      .bigDecimal (signedText (times + 1) text) := by
  rw [Number.negate, signedText, signedText]
  congr 1
  rcases Nat.mod_two_eq_zero_or_one times with heven | hodd
  · rw [if_neg (by omega), if_pos (by omega)]
    exact flipMinus_eq h
  · rw [if_pos hodd, if_neg (by omega), String.toList_append]
    exact String.ofList_toList

namespace Number

/-- A number is another one without a minus sign, with its sign flipped a number of times.  Only the
value of an integer counts, and not its type. -/
structure FlippedTo (number : Number) (times : Nat) (flipped : Number) : Prop where
  integer : ∀ value, number.intValue? = some value →
    flipped.intValue? = some (value * (-1) ^ times)
  decimal : ∀ exact, number = .bigDecimal exact →
    startsWithMinus exact = false ∧ flipped = .bigDecimal (signedText times exact)

namespace FlippedTo

theorem refl (h : ∀ exact, number = .bigDecimal exact → startsWithMinus exact = false) :
    FlippedTo number 0 number where
  integer value hvalue := by rw [hvalue, Int.pow_zero, Int.mul_one]
  decimal exact hexact := ⟨h exact hexact, hexact⟩

theorem negate {times : Nat} (h : FlippedTo number times m) :
    FlippedTo number (times + 1) m.negate where
  integer value hvalue := by
    rw [intValue?_negate, h.integer value hvalue, Option.map_some, Int.pow_succ, ← Int.mul_assoc,
      Int.mul_neg_one]
  decimal exact hexact := by
    obtain ⟨hplain, hm⟩ := h.decimal exact hexact
    exact ⟨hplain, by rw [hm, negate_signedText hplain]⟩

end FlippedTo

end Number

end Literal

open Literal (Number NumberError opensWith readInteger IsLeastMagnitude)

namespace TokenKind

variable {kind : TokenKind} {text : String} {number : Number}

theorem flippedTo_readNumber? (hopens : opensWith Char.isDigit text)
    (h : kind.readNumber? text = some (.ok number)) : number.FlippedTo 0 number := by
  refine .refl fun exact hexact => ?_
  subst hexact
  unfold readNumber? at h
  split at h
  · obtain ⟨_, _, _, _, _, hvalue, _⟩ := Literal.readInteger_minus hopens (Option.some.inj h)
    cases hvalue
  · exact Literal.startsWithMinus_bigDecimal hopens (Option.some.inj h)
  · cases h

theorem exists_readNumber?_minus (hopens : opensWith Char.isDigit text)
    (h : kind.readNumber? text = some (.ok number)) :
    ∃ m, kind.readNumber? ("-" ++ text) = some (.ok m) ∧ number.FlippedTo 1 m := by
  have hflipped := (flippedTo_readNumber? hopens h).negate
  unfold readNumber? at h ⊢
  split at h
  · obtain ⟨m, value, _, hm, _, hvalue, hminus, _⟩ :=
      Literal.readInteger_minus hopens (Option.some.inj h)
    refine ⟨m, congrArg some hm, ?_, ?_⟩
    · intro value' hvalue'
      rw [hvalue] at hvalue'
      cases hvalue'
      rw [hminus, Int.pow_one, Int.mul_neg_one]
    · rintro exact rfl
      cases hvalue
  · have hopens' := Literal.opensWith_isOpening_of_isDigit hopens
    exact ⟨_, congrArg some (Literal.readDecimal_minus hopens' (Option.some.inj h)), hflipped⟩
  · cases h

end TokenKind

/-! ## Trees of signs -/

/-- A sign. -/
inductive Sign where
  /-- A plus sign. -/
  | plus
  /-- A minus sign. -/
  | minus
deriving DecidableEq

/-- How a sign is written. -/
def Sign.text : Sign → String
  | .plus => "+"
  | .minus => "-"

/-- A node is a sign in front of an operand. -/
structure Node.IsSigned (n : Node) (sign : Sign) (operand : Node) : Prop where
  kind : n.kind = .unaryAdd
  operator : ∃ t, n.token? .operator = some t ∧ t.text = sign.text
  operand : n.node? .operand = some operand

/-- A node is a literal of a category. -/
structure Node.IsLiteral (n : Node) (category : TokenKind) (text : String) : Prop where
  kind : n.kind = .literal
  token : ∃ t, n.token? .literal = some t ∧ t.kind = category ∧ t.text = text

/-- A node is a number of signs in front of another one, without parentheses. -/
inductive Node.HasSigns (inner : Node) : List Sign → Node → Prop where
  | nil : HasSigns inner [] inner
  | cons {sign : Sign} {signs : List Sign} {n operand : Node} (h : n.IsSigned sign operand)
      (hoperand : HasSigns inner signs operand) : HasSigns inner (sign :: signs) n

namespace Production

theorem isSigned_unary (sign : Sign) (operand : Node) :
    (unary sign.text operand).IsSigned sign operand where
  kind := rfl
  operator := ⟨.unplaced .operator sign.text, rfl, rfl⟩
  operand := rfl

theorem isLiteral_literal (kind : TokenKind) (text : String) :
    (literal kind text).IsLiteral kind text where
  kind := rfl
  token := ⟨.unplaced kind text, rfl, rfl, rfl⟩

end Production

/-! ## Lowering one sign -/

section

variable {s : Scope} {n operand : Node} {sign : Sign} {category : TokenKind} {text : String}
  {number : Number}

namespace Node.IsLiteral

theorem expression_eq (h : n.IsLiteral category text) {read : Except NumberError Number}
    (hread : category.readNumber? text = some read) :
    s.expression n = do
      return .constant (.number (← s.number n read) !startsWithMinus text) n.span := by
  obtain ⟨t, ht, rfl, rfl⟩ := h.token
  rw [Scope.expression, h.kind]
  show s.literal n = _
  rw [Scope.literal, Scope.bind_token ht, Scope.literalValue, hread]
  simp only [bind_assoc, pure_bind]

theorem expression_ok (h : n.IsLiteral category text) (hopens : opensWith Char.isDigit text)
    (hread : category.readNumber? text = some (.ok number)) :
    s.expression n = .ok (.constant (.number number true) n.span) := by
  rw [h.expression_eq hread, Literal.startsWithMinus_of_opensWith hopens]
  rfl

theorem spanOr_eq (h : n.IsLiteral category text) (fallback : Span) :
    n.spanOr fallback = n.span := by
  obtain ⟨t, ht, _⟩ := h.token
  have hne := List.ne_nil_of_mem (mem_allTokens_of_mem_tokens (List.mem_of_head? ht))
  rw [span, spanOr_of_ne_nil hne, spanOr_of_ne_nil hne]

theorem expression_error (h : n.IsLiteral category text) {error : NumberError}
    (hread : category.readNumber? text = some (.error error)) :
    s.expression n = .error (.structural (.badNumber error) n.text n.span) := by
  rw [h.expression_eq hread, Scope.number, Scope.refuse, Scope.complaint, Scope.spanOf, h.spanOr_eq]
  rfl

theorem signFlipped?_eq (h : n.IsLiteral category text) (hopens : opensWith Char.isDigit text)
    (hread : category.readNumber? ("-" ++ text) = some (.ok number)) :
    s.signFlipped? n = .ok (some number) := by
  obtain ⟨t, ht, rfl, rfl⟩ := h.token
  have hflip := Literal.flipMinus_eq (Literal.startsWithMinus_of_opensWith hopens)
  rw [Scope.signFlipped?, if_pos h.kind, ht]
  dsimp only
  rw [hflip, hread]
  rfl

end Node.IsLiteral

namespace Node.IsSigned

theorem signFlipped?_eq (h : n.IsSigned sign operand) :
    s.signFlipped? n = .ok none := by
  rw [Scope.signFlipped?, if_neg]
  rw [h.kind]
  decide

theorem expression_eq (h : n.IsSigned sign operand) :
    s.expression n = s.expr operand >>= fun e =>
      match sign, e.foldable? with
      | .plus, some _ => .ok (e.withSpan n.span)
      | .plus, none => .ok { shape := .plus e, span := n.span }
      | .minus, some c => s.negateConstant n operand c
      | .minus, none => .ok { shape := .minus e, span := n.span } := by
  obtain ⟨t, ht, htext⟩ := h.operator
  rw [Scope.expression, h.kind]
  show s.unary n = _
  rw [Scope.unary, Scope.bind_token ht, Scope.bind_node h.operand, htext]
  congr 1
  funext e
  cases sign with
  | plus => cases e.foldable? <;> rfl
  | minus => cases e.foldable? <;> rfl

theorem expression_plus (h : n.IsSigned .plus operand) {c : Constant} {span : Span}
    (hoperand : s.expr operand = .ok (.constant c span)) :
    s.expression n = .ok (.constant c n.span) := by
  rw [h.expression_eq, hoperand]
  rfl

theorem expression_minus (h : n.IsSigned .minus operand) {keeps : Bool} {span : Span}
    (hoperand : s.expr operand = .ok (.constant (.number number keeps) span))
    {reread : Option Number} (hreread : s.signFlipped? operand = .ok reread) :
    s.expression n = .ok (.constant (.number (reread.getD number.negate) false) n.span) := by
  rw [h.expression_eq, Lowered.bind_of_ok hoperand]
  show s.negateConstant n operand (.number number keeps) = _
  rw [Scope.negateConstant]
  dsimp only [Constant.number]
  rw [Lowered.bind_of_ok hreread]
  rfl

theorem expression_error (h : n.IsSigned sign operand) {e : CompileError}
    (hoperand : s.expr operand = .error e) : s.expression n = .error e := by
  rw [h.expression_eq, hoperand]
  rfl

end Node.IsSigned

end

/-! ## Lowering a minus sign and a literal -/

/-- **A minus sign is read together with the literal behind it.**  A literal that can be read with
a minus sign is lowered to what it is read as with it, unless it fits its type only with the sign.
Such a literal is refused: it is out of range, and the sign comes too late. -/
theorem Node.IsSigned.reads_minus {n operand : Node} {text : String} {m : Number}
    (h : n.IsSigned .minus operand) (hoperand : operand.IsLiteral .integerLiteral text)
    (hopens : opensWith Char.isDigit text) (hread : readInteger ("-" ++ text) = .ok m)
    (limit left : Nat) (enclosing : Span) :
    let s := Scope.level limit (left + 2) enclosing
    (¬IsLeastMagnitude text → s.expr n = .ok (.constant (.number m false) n.span)) ∧
    (IsLeastMagnitude text → s.expr n =
      .error (.structural (.badNumber (.outOfRange text)) operand.text operand.span)) := by
  intro s
  cases hplain : readInteger text with
  | ok number =>
    have hliteral := hoperand.expression_ok
      (s := .level limit left (operand.spanOr (n.spanOr enclosing))) hopens (congrArg some hplain)
    have hflip := hoperand.signFlipped?_eq (s := .level limit (left + 1) (n.spanOr enclosing))
      hopens (congrArg some hread)
    refine ⟨fun _ => h.expression_minus hliteral hflip, fun hleast => ?_⟩
    rw [hleast.readInteger_eq] at hplain
    cases hplain
  | error error =>
    have hleast := Literal.isLeastMagnitude_of_minus hopens hread hplain
    refine ⟨fun hnot => absurd hleast hnot, fun _ => h.expression_error ?_⟩
    exact hoperand.expression_error (congrArg some hleast.readInteger_eq)

open Production in
/-- The least integer of 32 bits has no suffix letter, so it is read with its sign. -/
theorem Node.IsSigned.reads_minus_leastInteger :
    let n := unary "-" (integer "2147483648")
    n.IsSigned .minus (integer "2147483648") ∧
      (integer "2147483648").IsLiteral .integerLiteral "2147483648" ∧
      opensWith Char.isDigit "2147483648" = true ∧
      readInteger "-2147483648" = .ok (.integer Int32.minValue) ∧
      (Scope.outermost 2).expr n =
        .ok (.constant (.number (.integer Int32.minValue) false) n.span) := by
  intro n
  have hsigned : n.IsSigned .minus (integer "2147483648") := isSigned_unary .minus _
  have hliteral := isLiteral_literal .integerLiteral "2147483648"
  have hopens : opensWith Char.isDigit "2147483648" = true := by decide
  have hread : readInteger "-2147483648" = .ok (.integer Int32.minValue) := rfl
  have hfits : ¬IsLeastMagnitude "2147483648" := by
    intro hleast
    cases hleast.readInteger_eq
  have hreads := hsigned.reads_minus hliteral hopens hread 2 0 .fileStart
  exact ⟨hsigned, hliteral, hopens, hread, hreads.1 hfits⟩

open Production in
/-- With a suffix letter the least integer of 32 bits is refused, although it can be read. -/
theorem lower_leastInteger_suffixed :
    let n := unary "-" (integer "2147483648i")
    let root := (Production.unit [expressionStatement n]).layOut.root
    opensWith Char.isDigit "2147483648i" = true ∧
      readInteger "-2147483648i" = .ok (.integer Int32.minValue) ∧
      (lower {} ⟨root, []⟩).toOption.isNone = true := by
  intro n root
  exact ⟨by decide, rfl, by decide +kernel⟩

/-! ## Lowering any number of signs -/

/-- **Signs never lose the value.**  A numeric literal behind any number of signs is lowered to one
constant: the number of the literal with its sign flipped once for each minus sign.  It keeps its
primitive type if there is none. -/
theorem Node.HasSigns.folds {category : TokenKind} {text : String} {number : Number}
    {literal n : Node} {signs : List Sign} (h : literal.HasSigns signs n)
    (hliteral : literal.IsLiteral category text) (hopens : opensWith Char.isDigit text)
    (hread : category.readNumber? text = some (.ok number)) {left : Nat}
    (hleft : signs.length < left) (limit : Nat) (enclosing : Span) :
    ∃ m, (Scope.level limit left enclosing).expr n =
        .ok (.constant (.number m (signs.count .minus == 0)) n.span) ∧
      number.FlippedTo (signs.count .minus) m := by
  induction h generalizing left enclosing with
  | nil =>
    cases left with
    | zero => cases hleft
    | succ left =>
      exact ⟨number, hliteral.expression_ok hopens hread,
        TokenKind.flippedTo_readNumber? hopens hread⟩
  | @cons sign signs n operand hsigned hoperand ih =>
    cases left with
    | zero => cases hleft
    | succ left =>
      obtain ⟨m, hm, hflipped⟩ := ih (Nat.lt_of_succ_lt_succ hleft) (n.spanOr enclosing)
      cases sign with
      | plus =>
        rw [List.count_cons_of_ne (by decide)]
        exact ⟨m, hsigned.expression_plus hm, hflipped⟩
      | minus =>
        rw [List.count_cons_self]
        -- only directly in front of the literal is the sign read together with the text
        cases hoperand with
        | nil =>
          obtain ⟨m', hm', hflip⟩ := TokenKind.exists_readNumber?_minus hopens hread
          exact ⟨m', hsigned.expression_minus hm (hliteral.signFlipped?_eq hopens hm'), hflip⟩
        | cons hinner _ =>
          exact ⟨m.negate, hsigned.expression_minus hm hinner.signFlipped?_eq, hflipped.negate⟩

open Production in
/-- The signs of `- + - 2147483648`: the inner minus sign gives the least integer of 32 bits, and
the outer one moves it to the next wider type. -/
theorem Node.HasSigns.folds_leastInteger :
    let literal := integer "2147483648"
    let n := unary "-" (unary "+" (unary "-" literal))
    literal.HasSigns [.minus, .plus, .minus] n ∧
      literal.IsLiteral .integerLiteral "2147483648" ∧
      opensWith Char.isDigit "2147483648" = true ∧
      TokenKind.integerLiteral.readNumber? "2147483648" = some (.ok (.long 2147483648)) ∧
      ∃ m, (Scope.outermost 4).expr n = .ok (.constant (.number m false) n.span) ∧
        m.intValue? = some 2147483648 := by
  intro literal n
  have hsigns : literal.HasSigns [.minus, .plus, .minus] n :=
    .cons (isSigned_unary .minus _) (.cons (isSigned_unary .plus _)
      (.cons (isSigned_unary .minus _) .nil))
  have hliteral := isLiteral_literal .integerLiteral "2147483648"
  have hopens : opensWith Char.isDigit "2147483648" = true := by decide
  have hread :
      TokenKind.integerLiteral.readNumber? "2147483648" = some (.ok (.long 2147483648)) := rfl
  have hleft : [Sign.minus, .plus, .minus].length < 4 := by decide
  obtain ⟨m, hm, hflipped⟩ := hsigns.folds hliteral hopens hread hleft 4 .fileStart
  exact ⟨hsigns, hliteral, hopens, hread, m, hm, hflipped.integer _ rfl⟩

end GroovyLowering
