import GroovyLowering.Proofs.Literal.Segment

/-!
# What literals and segments are read as

Literals and segments are made of delimiters and any content, which need not have been written by
`quote`.  Delimiters are cut off exactly, so the content is decoded as it stands, with its line ends
normalised where the style does that.

The style is told from the front, so for one quote the content must not open with two more, and a
segment must not seem to be between three double quotes.  The styles that normalise line ends are
told whatever the content is (`StringStyle.of?_of_normalizes`).  For these a text may be written
with either kind of line ends (`normalizeLineEnds_withCarriageReturns`).
-/

namespace GroovyLowering.Literal

variable {cs content : List Char} {style : StringStyle}

/-! ## Line ends of either kind -/

/-- A text with a carriage return in front of every line feed. -/
def withCarriageReturns (cs : List Char) : List Char :=
  cs.flatMap fun c => if c = '\n' then ['\r', '\n'] else [c]

theorem normalizeLineEnds_withCarriageReturns (h : '\r' ∉ cs) :
    normalizeLineEnds (withCarriageReturns cs) = cs := by
  induction cs with
  | nil => rfl
  | cons c cs ih =>
    obtain ⟨hc, hcs⟩ := List.ne_and_not_mem_of_not_mem_cons h
    by_cases hfeed : c = '\n'
    · subst hfeed
      exact congrArg (List.cons '\n') (ih hcs)
    · have hcons : withCarriageReturns (c :: cs) = [c] ++ withCarriageReturns cs := by
        rw [withCarriageReturns, List.flatMap_cons, if_neg hfeed, withCarriageReturns]
      have hreturn : '\r' ∉ [c] := fun hmem => hc (List.mem_singleton.1 hmem)
      rw [hcons, normalizeLineEnds_append_of_not_mem hreturn, ih hcs, List.singleton_append]

theorem normalizeLineEndsIf_withCarriageReturns (hstyle : style.normalizesLineEnds = true)
    (h : '\r' ∉ cs) :
    normalizeLineEndsIf style.normalizesLineEnds (withCarriageReturns cs) =
      normalizeLineEndsIf style.normalizesLineEnds cs := by
  rw [normalizeLineEndsIf_of_not_mem _ h, hstyle, normalizeLineEndsIf, if_pos rfl,
    normalizeLineEnds_withCarriageReturns h]

/-! ## What the delimiters tell -/

theorem StringStyle.of?_of_normalizes (hstyle : style.normalizesLineEnds = true)
    (content : List Char) :
    of? (style.opening ++ content ++ style.closing) = some style := by
  cases style with
  | singleQuoted => cases hstyle
  | doubleQuoted => cases hstyle
  | tripleSingleQuoted => rfl
  | tripleDoubleQuoted => rfl
  | slashy => rfl
  | dollarSlashy => rfl

theorem StringStyle.ne_doubleQuoted_of_normalizes (hstyle : style.normalizesLineEnds = true) :
    style ≠ .doubleQuoted := by
  rintro rfl
  cases hstyle

namespace Segment

theorem opensTriple_eq_false_iff : opensTriple cs = false ↔ ¬['"', '"', '"'] <+: cs := by
  fun_cases opensTriple cs with
  | case1 rest => simp
  | case2 _ hother =>
    refine iff_of_true rfl ?_
    rintro ⟨rest, hrest⟩
    exact hother rest hrest.symm

theorem opensTriple_reverse_eq_false_iff :
    opensTriple cs.reverse = false ↔ ¬['"', '"', '"'] <:+ cs := by
  rw [opensTriple_eq_false_iff, ← List.reverse_prefix]
  rfl

end Segment

/-! ## Contents -/

/-- **Delimiters are cut off exactly.**  A literal whose front tells its style is decoded to its
content under the table of that style, with its line ends normalised if the style does that.  So is
the front and the end of an interpolated string, unless one double quote is taken for three, and so
is a part, whose line ends are always normalised.  Where a style normalises line ends, it makes no
difference which kind of line ends a content is written with. -/
theorem content_between_delimiters (style : StringStyle) (content : List Char) :
    (StringStyle.of? (style.opening ++ content ++ style.closing) = some style →
      unquote? (style.opening ++ content ++ style.closing) =
        some (decode style.escapeMode (normalizeLineEndsIf style.normalizesLineEnds content))) ∧
    (style.interpolates →
      ((style = .doubleQuoted → ¬['"', '"', '"'] <+: style.opening ++ content ++ ['$']) →
        Segment.opening style.escapeMode (style.opening ++ content ++ ['$']) =
          decode style.escapeMode (normalizeLineEndsIf style.normalizesLineEnds content)) ∧
      Segment.part style.escapeMode (content ++ ['$']) =
        decode style.escapeMode (normalizeLineEnds content) ∧
      ((style = .doubleQuoted → ¬['"', '"', '"'] <:+ content ++ style.closing) →
        Segment.closing style.escapeMode (content ++ style.closing) =
          decode style.escapeMode (normalizeLineEndsIf style.normalizesLineEnds content))) ∧
    (style.normalizesLineEnds = true → '\r' ∉ content →
      unquote? (style.opening ++ withCarriageReturns content ++ style.closing) =
        unquote? (style.opening ++ content ++ style.closing) ∧
      (style.interpolates →
        Segment.opening style.escapeMode
            (style.opening ++ withCarriageReturns content ++ ['$']) =
          Segment.opening style.escapeMode (style.opening ++ content ++ ['$']) ∧
        Segment.part style.escapeMode (withCarriageReturns content ++ ['$']) =
          Segment.part style.escapeMode (content ++ ['$']) ∧
        Segment.closing style.escapeMode (withCarriageReturns content ++ style.closing) =
          Segment.closing style.escapeMode (content ++ style.closing))) := by
  refine ⟨unquote?_between, fun hstyle => ⟨fun htriple => ?_, ?_, fun htriple => ?_⟩, ?_⟩
  · exact Segment.opening_between hstyle fun h => Segment.opensTriple_eq_false_iff.2 (htriple h)
  · exact Segment.part_between style.escapeMode content
  · exact Segment.closing_between hstyle fun h =>
      Segment.opensTriple_reverse_eq_false_iff.2 (htriple h)
  · intro hnormalizes hreturn
    have hends := normalizeLineEndsIf_withCarriageReturns hnormalizes hreturn
    have hdouble := StringStyle.ne_doubleQuoted_of_normalizes hnormalizes
    refine ⟨?_, fun hstyle => ⟨?_, ?_, ?_⟩⟩
    · rw [unquote?_between (StringStyle.of?_of_normalizes hnormalizes _),
        unquote?_between (StringStyle.of?_of_normalizes hnormalizes _), hends]
    · rw [Segment.opening_between hstyle fun h => absurd h hdouble,
        Segment.opening_between hstyle fun h => absurd h hdouble, hends]
    · rw [Segment.part_between, Segment.part_between,
        normalizeLineEnds_withCarriageReturns hreturn, normalizeLineEnds_of_not_mem hreturn]
    · rw [Segment.closing_between hstyle fun h => absurd h hdouble,
        Segment.closing_between hstyle fun h => absurd h hdouble, hends]

/-- A character of two bytes and a line end between double quotes, where line ends stay, and a line
end and an unknown escape between dollars and slashes, where they do not. -/
theorem content_between_delimiters_lineEnd :
    unquote? ['"', 'é', '\r', '\n', '"'] = some ['é', '\r', '\n'] ∧
      Segment.opening .standard ['"', 'é', '\r', '\n', '$'] = ['é', '\r', '\n'] ∧
      Segment.closing .standard ['é', '\r', '\n', '"'] = ['é', '\r', '\n'] ∧
      unquote? ['$', '/', '\r', '\n', '\\', 'q', '/', '$'] =
        unquote? ['$', '/', '\n', '\\', 'q', '/', '$'] ∧
      Segment.closing .dollarSlashy ['\r', '\n', '\\', 'q', '/', '$'] =
        Segment.closing .dollarSlashy ['\n', '\\', 'q', '/', '$'] := by
  obtain ⟨hliteral, hsegments, -⟩ := content_between_delimiters .doubleQuoted ['é', '\r', '\n']
  obtain ⟨hopening, -, hclosing⟩ := hsegments trivial
  obtain ⟨hlines, hlineSegments⟩ :=
    (content_between_delimiters .dollarSlashy ['\n', '\\', 'q']).2.2 rfl (by decide)
  exact ⟨hliteral rfl, hopening fun _ => by decide, hclosing fun _ => by decide, hlines,
    (hlineSegments trivial).2.2⟩

end GroovyLowering.Literal
