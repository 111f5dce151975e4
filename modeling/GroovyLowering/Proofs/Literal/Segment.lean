import GroovyLowering.Proofs.Literal.Quoted

/-!
# Reading segments of interpolated strings back

A segment is read like a literal, but its delimiters are guessed from its own front or end.  With
the guess right, what stands between them is decoded (`Segment.decodeWith_between`), and so a
segment written for a value is read back.

The guess goes wrong only for one double quote.  With two more behind it at the front, or in front
of it at the end, it is taken for three.  A value never opens or ends with a double quote that is
not escaped, so there is a backslash in the way (`Segment.opensTriple_body`,
`Segment.opensTriple_reverse_body`).
-/

namespace GroovyLowering.Literal

/-- Whether a string of a style may have values in it. -/
def StringStyle.interpolates : StringStyle → Prop
  | .doubleQuoted | .tripleDoubleQuoted | .slashy | .dollarSlashy => True
  | .singleQuoted | .tripleSingleQuoted => False

namespace Segment

open Text (HasNoLineEnd)

theorem decodeWith_between (mode : EscapeMode) {front back : List Char}
    (hfront : HasNoLineEnd front) (hback : HasNoLineEnd back) (normalizes : Bool)
    (content : List Char) :
    decodeWith mode (byteLength front) (byteLength back) normalizes (front ++ content ++ back) =
      decode mode (normalizeLineEndsIf normalizes content) := by
  rw [decodeWith, strip_between hfront hback]

/-! ## The front -/

/-- One double quote in front of a value is not taken for three. -/
theorem opensTriple_body (value : List Char) :
    opensTriple ('"' :: (StringStyle.doubleQuoted.body value ++ ['$'])) = false := by
  cases value with
  | nil => rfl
  | cons c value =>
    obtain ⟨d, more, hc, _, hd⟩ := exists_quoteStandard_eq_cons false c
    simp [StringStyle.body, StringStyle.quoteChar, hc, opensTriple, hd]

/-- The opening delimiter tells the table of escapes. -/
theorem of_opening (style : StringStyle) (rest : List Char) :
    EscapeMode.of (style.opening ++ rest) = style.escapeMode := by
  cases style <;> rfl

theorem opening_between {style : StringStyle} (hstyle : style.interpolates) {content : List Char}
    (htriple : style = .doubleQuoted → opensTriple (style.opening ++ content ++ ['$']) = false) :
    opening style.escapeMode (style.opening ++ content ++ ['$']) =
      decode style.escapeMode (normalizeLineEndsIf style.normalizesLineEnds content) := by
  have hdecode := decodeWith_between style.escapeMode style.hasNoLineEnd_opening
    (by decide : HasNoLineEnd ['$']) style.normalizesLineEnds content
  cases style with
  | singleQuoted => cases hstyle
  | tripleSingleQuoted => cases hstyle
  | doubleQuoted =>
    rw [opening, htriple rfl]
    exact hdecode
  | tripleDoubleQuoted => exact hdecode
  | slashy => exact hdecode
  | dollarSlashy => exact hdecode

theorem opening_body {style : StringStyle} (hstyle : style.interpolates) (value : List Char) :
    opening style.escapeMode (style.opening ++ style.body value ++ ['$']) = value := by
  have htriple : style = .doubleQuoted →
      opensTriple (style.opening ++ style.body value ++ ['$']) = false := by
    rintro rfl
    exact opensTriple_body value
  rw [opening_between hstyle htriple, normalizeLineEndsIf_of_not_mem _ (not_mem_body style value),
    decode_body]

/-! ## Parts -/

theorem part_between (mode : EscapeMode) (content : List Char) :
    part mode (content ++ ['$']) = decode mode (normalizeLineEnds content) :=
  decodeWith_between mode Text.hasNoLineEnd_nil (by decide) true content

theorem part_body (style : StringStyle) (value : List Char) :
    part style.escapeMode (style.body value ++ ['$']) = value := by
  rw [part_between, normalizeLineEnds_of_not_mem (not_mem_body style value), decode_body]

/-! ## The end -/

/-- What the standard table writes for a character ends in no double quote, but for the escape of
one. -/
theorem quoteStandard_eq_or_concat (triple : Bool) (c : Char) :
    quoteStandard triple c = ['\\', '"'] ∨
      ∃ front d, quoteStandard triple c = front ++ [d] ∧ d ≠ '"' := by
  by_cases hdouble : c = '"'
  · rw [hdouble]
    exact Or.inl rfl
  refine Or.inr ?_
  have hspelling := spelling_quoteStandard triple c
  generalize quoteStandard triple c = cs at hspelling
  cases hspelling with
  | @pair first second _ _ h =>
    refine ⟨[first], second, rfl, ?_⟩
    rintro rfl
    by_cases hbackslash : first = '\\'
    · -- A backslash and a double quote stand for a double quote.
      subst hbackslash
      cases h []
      exact hdouble rfl
    · have hnone := EscapeMode.standard.escape?_eq_none hbackslash (fun h => nomatch h.2) ['"']
      rw [h []] at hnone
      cases hnone
  | code h =>
    refine ⟨(unicodeUnit c.toNat).take 5, hexDigit (c.toNat % 16), ?_, ?_⟩
    · rw [unicodeEscape, units16, if_pos h]
      rfl
    · exact (by decide : ∀ n < 16, hexDigit n ≠ '"') _ (Nat.mod_lt _ (by decide))
  | plain _ _ => exact ⟨[], c, rfl, hdouble⟩

/-- One double quote behind a value is not taken for three. -/
theorem opensTriple_reverse_body (value : List Char) :
    opensTriple ('"' :: (StringStyle.doubleQuoted.body value).reverse) = false := by
  rcases List.eq_nil_or_concat' value with rfl | ⟨value, c, rfl⟩
  · rfl
  · have hbody : StringStyle.doubleQuoted.body (value ++ [c]) =
        StringStyle.doubleQuoted.body value ++ quoteStandard false c := by
      rw [StringStyle.body, List.flatMap_append, List.flatMap_singleton]
      rfl
    rw [hbody, List.reverse_append]
    rcases quoteStandard_eq_or_concat false c with hc | ⟨front, d, hc, hd⟩
    · rw [hc]
      rfl
    · simp [hc, opensTriple, hd]

theorem closing_between {style : StringStyle} (hstyle : style.interpolates) {content : List Char}
    (htriple : style = .doubleQuoted → opensTriple (content ++ style.closing).reverse = false) :
    closing style.escapeMode (content ++ style.closing) =
      decode style.escapeMode (normalizeLineEndsIf style.normalizesLineEnds content) := by
  have hdecode := decodeWith_between style.escapeMode Text.hasNoLineEnd_nil
    style.hasNoLineEnd_closing style.normalizesLineEnds content
  rw [List.nil_append] at hdecode
  rw [List.reverse_append] at htriple
  rw [closing, List.reverse_append]
  cases style with
  | singleQuoted => cases hstyle
  | tripleSingleQuoted => cases hstyle
  | doubleQuoted =>
    rw [htriple rfl]
    exact hdecode
  | tripleDoubleQuoted => exact hdecode
  | slashy => exact hdecode
  | dollarSlashy => exact hdecode

theorem closing_body {style : StringStyle} (hstyle : style.interpolates) (value : List Char) :
    closing style.escapeMode (style.body value ++ style.closing) = value := by
  have htriple : style = .doubleQuoted →
      opensTriple (style.body value ++ style.closing).reverse = false := by
    rintro rfl
    rw [List.reverse_append]
    exact opensTriple_reverse_body value
  rw [closing_between hstyle htriple, normalizeLineEndsIf_of_not_mem _ (not_mem_body style value),
    decode_body]

end Segment

end GroovyLowering.Literal
