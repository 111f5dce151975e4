import GroovyLowering.Lower.Level
import GroovyLowering.Proofs.Literal.Delimiter
import GroovyLowering.Proofs.Literal.Escape
import GroovyLowering.Proofs.Step
import GroovyLowering.Tree.Construct.Expression

/-!
# Reading a string back from its literal

A literal is written by `quote` character by character, and read by `unquote?` in three steps: the
style is told from the front, the delimiters are cut off, and the content is decoded.  Each step is
undone on its own.

* `spelling_quoteChar`: a style has three ways to write a character, and each of them stands for
  that character (`Spelling.standsFor`).  So a whole body stands for the value it was written for,
  and what follows it is read as if the body were not there (`body_selfDelimiting`).
* `not_mem_quote`: a literal has no carriage return, so there are no line ends to normalise.
* `unquote?_between`: the value of a literal is what its content is decoded to.
* `StringStyle.of?_quote`: the front of a literal tells its style.  One quote is not taken for
  three, since what stands behind it starts with no quote.
-/

namespace GroovyLowering.Literal

/-! ## How a character is written -/

/-- A control character takes one unit. -/
theorem toNat_lt_of_isControl {c : Char} (h : isControl c = true) : c.toNat < 0x10000 := by
  simp only [isControl, Bool.or_eq_true, Bool.and_eq_true, decide_eq_true_eq] at h
  omega

/-- The ways in which a style writes a character: as an escape of two characters, as its code, or as
itself where it starts no escape. -/
inductive Spelling (mode : EscapeMode) (c : Char) : List Char → Prop where
  | pair {first second : Char} (hfirst : first ≠ '\r') (hsecond : second ≠ '\r')
      (h : ∀ t, mode.escape? first (second :: t) = some ⟨[c], 1⟩) : Spelling mode c [first, second]
  | code (h : c.toNat < 0x10000) : Spelling mode c (unicodeEscape c)
  | plain (hreturn : c ≠ '\r') (h : ∀ t, mode.escape? c t = none) : Spelling mode c [c]

theorem spelling_quoteStandard (triple : Bool) (c : Char) :
    Spelling .standard c (quoteStandard triple c) := by
  rw [quoteStandard]
  by_cases hbackslash : c = '\\'
  · rw [if_pos hbackslash, hbackslash]
    exact .pair (by decide) (by decide) fun _ => rfl
  by_cases hquote : c = '\''
  · rw [if_neg hbackslash, if_pos hquote, hquote]
    exact .pair (by decide) (by decide) fun _ => rfl
  by_cases hdouble : c = '"'
  · rw [if_neg hbackslash, if_neg hquote, if_pos hdouble, hdouble]
    exact .pair (by decide) (by decide) fun _ => rfl
  by_cases hdollar : c = '$'
  · rw [if_neg hbackslash, if_neg hquote, if_neg hdouble, if_pos hdollar, hdollar]
    exact .pair (by decide) (by decide) fun _ => rfl
  rw [if_neg hbackslash, if_neg hquote, if_neg hdouble, if_neg hdollar]
  by_cases hline : c = '\n'
  · rw [if_pos hline, hline]
    cases triple with
    | true => exact .plain (by decide) fun _ => rfl
    | false => exact .pair (by decide) (by decide) fun _ => rfl
  by_cases hreturn : c = '\r'
  · rw [if_neg hline, if_pos hreturn, hreturn]
    exact .pair (by decide) (by decide) fun _ => rfl
  by_cases htab : c = '\t'
  · rw [if_neg hline, if_neg hreturn, if_pos htab, htab]
    exact .pair (by decide) (by decide) fun _ => rfl
  rw [if_neg hline, if_neg hreturn, if_neg htab]
  by_cases hback : c = '\x08'
  · rw [if_pos hback, hback]
    exact .pair (by decide) (by decide) fun _ => rfl
  by_cases hfeed : c = '\x0c'
  · rw [if_neg hback, if_pos hfeed, hfeed]
    exact .pair (by decide) (by decide) fun _ => rfl
  rw [if_neg hback, if_neg hfeed]
  by_cases hcontrol : isControl c = true
  · rw [if_pos hcontrol]
    exact .code (toNat_lt_of_isControl hcontrol)
  · rw [if_neg hcontrol]
    exact .plain hreturn (EscapeMode.escape?_eq_none hbackslash fun h => nomatch h.2)

theorem spelling_quoteSlashy (c : Char) : Spelling .slashy c (quoteSlashy c) := by
  rw [quoteSlashy]
  by_cases hslash : c = '/'
  · rw [if_pos hslash, hslash]
    exact .pair (by decide) (by decide) fun _ => rfl
  rw [if_neg hslash]
  by_cases hcode : c = '\\' ∨ c = '\r' ∨ c = '$'
  · rw [if_pos hcode]
    refine .code ?_
    rcases hcode with rfl | rfl | rfl
    · decide
    · decide
    · decide
  · rw [if_neg hcode]
    obtain ⟨hbackslash, hreturn, _⟩ := not_or.1 hcode |>.imp_right not_or.1
    exact .plain hreturn (EscapeMode.escape?_eq_none hbackslash fun h => nomatch h.2)

theorem spelling_quoteDollarSlashy (c : Char) : Spelling .dollarSlashy c (quoteDollarSlashy c) := by
  rw [quoteDollarSlashy]
  by_cases hdollar : c = '$'
  · rw [if_pos hdollar, hdollar]
    exact .pair (by decide) (by decide) fun _ => rfl
  by_cases hslash : c = '/'
  · rw [if_neg hdollar, if_pos hslash, hslash]
    exact .pair (by decide) (by decide) fun _ => rfl
  rw [if_neg hdollar, if_neg hslash]
  by_cases hcode : c = '\\' ∨ c = '\r'
  · rw [if_pos hcode]
    refine .code ?_
    rcases hcode with rfl | rfl
    · decide
    · decide
  · rw [if_neg hcode]
    obtain ⟨hbackslash, hreturn⟩ := not_or.1 hcode
    exact .plain hreturn (EscapeMode.escape?_eq_none hbackslash fun h => hdollar h.1)

theorem spelling_quoteChar (style : StringStyle) (c : Char) :
    Spelling style.escapeMode c (style.quoteChar c) := by
  cases style with
  | singleQuoted => exact spelling_quoteStandard false c
  | doubleQuoted => exact spelling_quoteStandard false c
  | tripleSingleQuoted => exact spelling_quoteStandard true c
  | tripleDoubleQuoted => exact spelling_quoteStandard true c
  | slashy => exact spelling_quoteSlashy c
  | dollarSlashy => exact spelling_quoteDollarSlashy c

/-! ## Decoding -/

theorem Spelling.standsFor {mode : EscapeMode} {c : Char} {cs : List Char}
    (h : Spelling mode c cs) : StandsFor mode cs [c] := by
  cases h with
  | pair _ _ h => exact standsFor_pair h
  | code h =>
    rw [unicodeEscape_of_lt h]
    exact standsFor_unicodeUnit h mode (charOfCode?_toNat c)
  | plain _ h => exact standsFor_plain h

theorem standsFor_body (style : StringStyle) (value : List Char) :
    StandsFor style.escapeMode (style.body value) value := by
  have hbody := standsFor_flatMap (fun c => (spelling_quoteChar style c).standsFor) value
  rwa [List.flatMap_singleton'] at hbody

theorem decode_body (style : StringStyle) (value : List Char) :
    decode style.escapeMode (style.body value) = value := (standsFor_body style value).decode_eq

/-- **What is written is self-delimiting.**  A literal is a body between delimiters, and the body is
decoded to the value, with every text behind it decoded on its own: no escape of the body takes in
what follows, and nothing it stands for is read a second time. -/
theorem body_selfDelimiting (style : StringStyle) (value rest : List Char) :
    quote style value = style.opening ++ style.body value ++ style.closing ∧
      decode style.escapeMode (style.body value ++ rest) =
        value ++ decode style.escapeMode rest := ⟨rfl, standsFor_body style value rest⟩

/-! ## No carriage return -/

theorem not_mem_unicodeUnit (n : Nat) : '\r' ∉ unicodeUnit n := by
  have hdigit : ∀ k : Nat, '\r' ≠ hexDigit (k % 16) :=
    fun k => (hexDigit_ne (Nat.mod_lt k (by decide))).1.symm
  simp [unicodeUnit, hdigit]

theorem not_mem_unicodeEscape (c : Char) : '\r' ∉ unicodeEscape c := by
  rw [unicodeEscape, List.mem_flatMap]
  rintro ⟨unit, _, hmem⟩
  exact not_mem_unicodeUnit unit hmem

theorem Spelling.not_mem {mode : EscapeMode} {c : Char} {cs : List Char} (h : Spelling mode c cs) :
    '\r' ∉ cs := by
  cases h with
  | pair hfirst hsecond _ =>
    intro hmem
    rcases List.mem_pair.1 hmem with hmem | hmem
    · exact hfirst hmem.symm
    · exact hsecond hmem.symm
  | code _ => exact not_mem_unicodeEscape c
  | plain hreturn _ => exact fun hmem => hreturn (List.mem_singleton.1 hmem).symm

theorem not_mem_body (style : StringStyle) (value : List Char) : '\r' ∉ style.body value := by
  rw [StringStyle.body, List.mem_flatMap]
  rintro ⟨c, _, hmem⟩
  exact (spelling_quoteChar style c).not_mem hmem

theorem not_mem_quote (style : StringStyle) (value : List Char) : '\r' ∉ quote style value := by
  rw [quote, List.mem_append, List.mem_append]
  rintro ((h | h) | h)
  · exact style.hasNoLineEnd_opening.not_mem h
  · exact not_mem_body style value h
  · exact style.hasNoLineEnd_closing.not_mem h

/-! ## Styles -/

/-- What the standard table writes for a character starts with no quote. -/
theorem exists_quoteStandard_eq_cons (triple : Bool) (c : Char) :
    ∃ d more, quoteStandard triple c = d :: more ∧ d ≠ '\'' ∧ d ≠ '"' := by
  by_cases hquote : c = '\''
  · rw [hquote]
    exact ⟨'\\', _, rfl, by decide, by decide⟩
  by_cases hdouble : c = '"'
  · rw [hdouble]
    exact ⟨'\\', _, rfl, by decide, by decide⟩
  have hspelling := spelling_quoteStandard triple c
  generalize quoteStandard triple c = cs at hspelling
  cases hspelling with
  | @pair first second _ _ h =>
    -- Only a backslash starts an escape of this table.
    by_cases hbackslash : first = '\\'
    · rw [hbackslash]
      exact ⟨'\\', _, rfl, by decide, by decide⟩
    · have hnone := EscapeMode.standard.escape?_eq_none hbackslash (fun h => nomatch h.2) [second]
      rw [h []] at hnone
      cases hnone
  | code h =>
    rw [unicodeEscape, units16, if_pos h]
    exact ⟨'\\', _, rfl, by decide, by decide⟩
  | plain _ _ => exact ⟨c, [], rfl, hquote, hdouble⟩

namespace StringStyle

/-- One quote that no quote follows is not taken for three. -/
theorem of?_singleQuote {d : Char} {more : List Char} (h : d ≠ '\'') :
    of? ('\'' :: d :: more) = some .singleQuoted := by
  simp [of?, h]

theorem of?_doubleQuote {d : Char} {more : List Char} (h : d ≠ '"') :
    of? ('"' :: d :: more) = some .doubleQuoted := by
  simp [of?, h]

/-- The front of a literal tells its style. -/
theorem of?_quote (style : StringStyle) (value : List Char) :
    of? (quote style value) = some style := by
  cases style with
  | singleQuoted =>
    cases value with
    | nil => rfl
    | cons c value =>
      obtain ⟨d, more, hc, hd, _⟩ := exists_quoteStandard_eq_cons false c
      simp only [quote, opening, body, List.flatMap_cons, quoteChar, hc, List.cons_append,
        List.nil_append]
      exact of?_singleQuote hd
  | doubleQuoted =>
    cases value with
    | nil => rfl
    | cons c value =>
      obtain ⟨d, more, hc, _, hd⟩ := exists_quoteStandard_eq_cons false c
      simp only [quote, opening, body, List.flatMap_cons, quoteChar, hc, List.cons_append,
        List.nil_append]
      exact of?_doubleQuote hd
  | tripleSingleQuoted => rfl
  | tripleDoubleQuoted => rfl
  | slashy => rfl
  | dollarSlashy => rfl

end StringStyle

/-! ## Literals -/

theorem unquote?_quote (style : StringStyle) (value : List Char) :
    unquote? (quote style value) = some value := by
  rw [quote, unquote?_between (StringStyle.of?_quote style value),
    normalizeLineEndsIf_of_not_mem _ (not_mem_body style value), decode_body]

end GroovyLowering.Literal

namespace GroovyLowering

open Literal

/-- **Reading undoes quoting.**  Whatever the style, the literal written for a text tells its style,
has that text as its value and has no carriage return, and a string literal node with it is lowered
to the text as a string constant. -/
theorem quote_reads_back (style : StringStyle) (value : List Char) :
    StringStyle.of? (quote style value) = some style ∧
      unquote? (quote style value) = some value ∧
      '\r' ∉ quote style value ∧
      ∀ (s : Scope) (n : Node) (t : Token), n.kind = .literal → n.token? .literal = some t →
        t.kind = .stringLiteral → t.text = String.ofList (quote style value) →
        s.expression n = .ok (.constant (.stringLiteral (String.ofList value)) n.span) := by
  refine ⟨StringStyle.of?_quote style value, unquote?_quote style value,
    not_mem_quote style value, ?_⟩
  intro s n t hn ht hkind htext
  have hvalue : s.stringValue n t = .ok (String.ofList value) := by
    rw [Scope.stringValue, htext, String.toList_ofList, unquote?_quote]
  have hliteral : s.literalValue n t = .ok (.stringLiteral (String.ofList value)) := by
    rw [Scope.literalValue, hkind]
    exact Lowered.bind_of_ok hvalue _
  rw [Scope.expression, hn]
  show s.literal n = _
  rw [Scope.literal, Scope.bind_token ht, Lowered.bind_of_ok hliteral]
  rfl

/-- A text with a dollar, a slash, a backslash and a line end of two characters, between dollars and
slashes. -/
theorem quote_reads_back_dollarSlashy :
    let value := ['$', '/', '\\', '\r', '\n']
    let n := Production.string (String.ofList (quote .dollarSlashy value))
    (Scope.outermost 512).expression n =
      .ok (.constant (.stringLiteral (String.ofList value)) n.span) := by
  intro value n
  exact (quote_reads_back .dollarSlashy value).2.2.2 (.outermost 512) n
    (.unplaced .stringLiteral (String.ofList (quote .dollarSlashy value))) rfl rfl rfl rfl

end GroovyLowering
