import GroovyLowering.Proofs.Offset
import Mathlib.Data.List.Infix

/-!
# Where the plain context has its mark

The plain context of an error shows a line without its line end, cut off by `Text.dropLineEnd`, and
puts a mark into it.  A report moves along the same line by `Text.trimLineEnd`, which drops every
line end character the line closes with.  The two part ways at a carriage return that no line feed
follows: it belongs to the shown line, and a report stops in front of it.

Where every carriage return is paired with a line feed, a line is a text and a line end
(`Text.IsLine`), and both functions give that text.  So the mark stands where the report points
(`Diagnostic.plainContext_marks`).
-/

namespace GroovyLowering

namespace Text

/-! ## Lines of a text with paired carriage returns -/

/-- Every carriage return has a line feed right behind it. -/
def PairsReturns (cs : List Char) : Prop :=
  ∀ i < cs.length, cs[i]? = some '\r' → cs[i + 1]? = some '\n'

instance (cs : List Char) : Decidable (PairsReturns cs) :=
  Nat.decidableBallLT cs.length fun i _ => cs[i]? = some '\r' → cs[i + 1]? = some '\n'

/-- A line is a text without line ends and, unless it is the last one, a line end. -/
inductive IsLine (text : List Char) : List Char → Prop where
  | last (h : HasNoLineEnd text) : IsLine text text
  | feed (h : HasNoLineEnd text) : IsLine text (text ++ ['\n'])
  | returnFeed (h : HasNoLineEnd text) : IsLine text (text ++ ['\r', '\n'])

variable {c : Char} {cs text ending l : List Char}

theorem isLineEnd_eq_false_iff : isLineEnd c = false ↔ c ≠ '\n' ∧ c ≠ '\r' := by
  simp [isLineEnd]

theorem IsLine.cons (hc : isLineEnd c = false) (h : IsLine text l) :
    IsLine (c :: text) (c :: l) := by
  cases h with
  | last h => exact .last (hasNoLineEnd_cons.2 ⟨hc, h⟩)
  | feed h => exact .feed (hasNoLineEnd_cons.2 ⟨hc, h⟩)
  | returnFeed h => exact .returnFeed (hasNoLineEnd_cons.2 ⟨hc, h⟩)

theorem PairsReturns.tail (h : PairsReturns (c :: cs)) : PairsReturns cs := by
  intro i hi hreturn
  exact h (i + 1) (Nat.succ_lt_succ hi) hreturn

/-- Behind a carriage return the text goes on with a line feed. -/
theorem PairsReturns.exists_cons (h : PairsReturns ('\r' :: cs)) : ∃ rest, cs = '\n' :: rest := by
  have hfeed : cs[0]? = some '\n' := h 0 (Nat.succ_pos _) rfl
  cases cs with
  | nil => cases hfeed
  | cons d rest =>
    cases hfeed
    exact ⟨rest, rfl⟩

/-- The lines of a text whose carriage returns are paired, by induction on the text.  The case with
content is a carriage return: the line feed behind it is a line of its own in the rest of the text,
and the two together are an empty line. -/
theorem exists_isLine (h : PairsReturns cs) (hl : l ∈ splitInclusive cs) :
    ∃ text, IsLine text l := by
  induction cs generalizing l with
  | nil => cases hl
  | cons c cs ih =>
    rw [splitInclusive] at hl
    split_ifs at hl with hfeed
    · rcases List.mem_cons.1 hl with rfl | hl
      · rw [hfeed]
        exact ⟨[], .feed hasNoLineEnd_nil⟩
      · exact ih h.tail hl
    · by_cases hreturn : c = '\r'
      · subst hreturn
        obtain ⟨rest, rfl⟩ := h.exists_cons
        have hsplit : splitInclusive ('\n' :: rest) = ['\n'] :: splitInclusive rest := by
          rw [splitInclusive, if_pos rfl]
        rw [hsplit] at hl ih
        rcases List.mem_cons.1 hl with rfl | hl
        · exact ⟨[], .returnFeed hasNoLineEnd_nil⟩
        · exact ih h.tail (List.mem_cons_of_mem _ hl)
      · have hc : isLineEnd c = false := isLineEnd_eq_false_iff.2 ⟨hfeed, hreturn⟩
        cases hsplit : splitInclusive cs with
        | nil =>
          rw [hsplit] at hl
          rw [List.mem_singleton.1 hl]
          exact ⟨[c], .last (hasNoLineEnd_cons.2 ⟨hc, hasNoLineEnd_nil⟩)⟩
        | cons first lines =>
          rw [hsplit] at hl ih
          rcases List.mem_cons.1 hl with rfl | hl
          · obtain ⟨text, hline⟩ := ih h.tail List.mem_cons_self
            exact ⟨c :: text, hline.cons hc⟩
          · exact ih h.tail (List.mem_cons_of_mem _ hl)

/-! ## The text of a line -/

theorem dropLineEnd_cons (h : isLineEnd c = false) : dropLineEnd (c :: l) = c :: dropLineEnd l := by
  obtain ⟨hfeed, hreturn⟩ := isLineEnd_eq_false_iff.1 h
  rw [dropLineEnd]
  · exact fun hc _ => hfeed hc
  · exact fun hc _ => hreturn hc

theorem dropLineEnd_append (h : HasNoLineEnd text) (ending : List Char) :
    dropLineEnd (text ++ ending) = text ++ dropLineEnd ending := by
  induction text with
  | nil => rfl
  | cons c text ih =>
    obtain ⟨hc, htext⟩ := hasNoLineEnd_cons.1 h
    rw [List.cons_append, dropLineEnd_cons hc, ih htext, List.cons_append]

theorem trimLineEnd_append (h : HasNoLineEnd text) (hending : ∀ c ∈ ending, isLineEnd c = true) :
    trimLineEnd (text ++ ending) = text := by
  have hdrop : text.reverse.dropWhile isLineEnd = text.reverse := by
    rw [List.dropWhile_eq_self_iff]
    intro hl
    rw [h _ (List.mem_reverse.1 (List.getElem_mem hl))]
    exact Bool.false_ne_true
  rw [trimLineEnd, List.reverse_append, List.dropWhile_append_of_pos, hdrop, List.reverse_reverse]
  exact fun c hc => hending c (List.mem_reverse.1 hc)

namespace IsLine

/-- The text of a line is what is shown of it. -/
theorem dropLineEnd_eq (h : IsLine text l) : dropLineEnd l = text := by
  cases h with
  | last h => simpa [dropLineEnd] using dropLineEnd_append h []
  | feed h => simp [dropLineEnd_append h, dropLineEnd]
  | returnFeed h => simp [dropLineEnd_append h, dropLineEnd]

/-- The text of a line is what a report moves along. -/
theorem trimLineEnd_eq (h : IsLine text l) : trimLineEnd l = text := by
  cases h with
  | last h =>
    have hnil : trimLineEnd (text ++ []) = text := trimLineEnd_append h fun _ hc => nomatch hc
    rwa [List.append_nil] at hnil
  | feed h => exact trimLineEnd_append h (by simp [isLineEnd])
  | returnFeed h => exact trimLineEnd_append h (by simp [isLineEnd])

theorem isPrefix (h : IsLine text l) : text <+: l := by
  cases h with
  | last => exact List.prefix_refl _
  | feed => exact List.prefix_append _ _
  | returnFeed => exact List.prefix_append _ _

end IsLine

/-! ## A line in its source -/

variable {ls : List (List Char)} {k : Nat}

theorem drop_lineStart (ls : List (List Char)) (k : Nat) :
    ls.flatten.drop (lineStart ls k) = (ls.drop k).flatten := by
  have hsplit : ls.flatten = (ls.take k).flatten ++ (ls.drop k).flatten := by
    rw [← List.flatten_append, List.take_append_drop]
  rw [hsplit, lineStart, List.drop_left]

/-- From the start of a line on the source goes on with the line. -/
theorem isPrefix_drop_lineStart (h : ls[k]? = some l) : l <+: ls.flatten.drop (lineStart ls k) := by
  obtain ⟨hk, hl⟩ := List.getElem?_eq_some_iff.1 h
  rw [drop_lineStart, List.drop_eq_getElem_cons hk, hl, List.flatten_cons]
  exact List.prefix_append _ _

end Text

/-! ## The mark -/

namespace Diagnostic

open Text

variable {source : String} {text l : List Char} {k : Nat}

theorem lines_of_isLine (hl : (splitInclusive source.toList)[k]? = some l) (h : IsLine text l) :
    (lines source)[k]? = some (String.ofList text) := by
  rw [lines, List.getElem?_map, hl, Option.map_some, h.dropLineEnd_eq]

/-- A report points behind the start of the line, by the column or at the end of its text. -/
theorem charOffset_of_isLine (hl : (splitInclusive source.toList)[k]? = some l)
    (h : IsLine text l) (col : Nat) :
    charOffset source (k + 1) col =
      lineStart (splitInclusive source.toList) k + min (col - 1) text.length := by
  rw [charOffset, offsetIn_of_some hl, h.trimLineEnd_eq]

/-- Where a report points the source goes on with the rest of the text. -/
theorem isPrefix_drop_charOffset (hl : (splitInclusive source.toList)[k]? = some l)
    (h : IsLine text l) (col : Nat) :
    text.drop (min (col - 1) text.length) <+:
      source.toList.drop (charOffset source (k + 1) col) := by
  have hline := h.isPrefix.trans (isPrefix_drop_lineStart hl)
  rw [splitInclusive_flatten] at hline
  rw [charOffset_of_isLine hl h, ← List.drop_drop]
  exact hline.drop _

/-- The mark stands behind as many characters as the column says, and not behind the line. -/
theorem markAt_ofList (text : List Char) (col : Nat) :
    markAt (String.ofList text) col =
      String.ofList (text.take (min (col - 1) text.length)) ++ " ⚠ " ++
        String.ofList (text.drop (min (col - 1) text.length)) := by
  have hmark : " ⚠ " = String.ofList mark := rfl
  rw [markAt, hmark, String.length_ofList, String.toList_ofList, String.ofList_append,
    String.ofList_append]

/-- **The plain context marks where a report points.**  In a source with paired carriage returns an
error is shown on the line it starts on, if there is such a line, and else not at all.  The mark
stands in that line behind as many characters as the offset of the error is behind the offset of the
line, and at the offset of the error the source goes on with what stands behind the mark. -/
theorem plainContext_marks {source : String} (hsource : PairsReturns source.toList)
    (record : ErrorRecord) (hline : 1 ≤ record.span.startLine) :
    ((lines source).length < record.span.startLine → plainContext record source = []) ∧
    (record.span.startLine ≤ (lines source).length →
      ∃ before after : String,
        (lines source)[record.span.startLine - 1]? = some (before ++ after) ∧
        plainContext record source =
          ["   line " ++ toString record.span.startLine ++ " column " ++
              toString record.span.startCol ++ ":",
            "   " ++ (before ++ " ⚠ " ++ after)] ∧
        charOffset source record.span.startLine record.span.startCol =
          charOffset source record.span.startLine 1 + before.length ∧
        after.toList <+:
          source.toList.drop (charOffset source record.span.startLine record.span.startCol)) := by
  constructor
  · intro h
    rw [plainContext, List.getElem?_eq_none (Nat.le_sub_one_of_lt h)]
  · intro h
    generalize hcol : record.span.startCol = col
    obtain ⟨k, hk⟩ := Nat.exists_eq_add_of_le' hline
    rw [hk, lines, List.length_map] at h
    have hl := List.getElem?_eq_getElem h
    obtain ⟨text, htext⟩ := exists_isLine hsource (List.mem_of_getElem? hl)
    have hshown := lines_of_isLine hl htext
    rw [hk, Nat.add_sub_cancel]
    refine ⟨String.ofList (text.take (min (col - 1) text.length)),
      String.ofList (text.drop (min (col - 1) text.length)), ?_, ?_, ?_, ?_⟩
    · rw [hshown, ← String.ofList_append, List.take_append_drop]
    · rw [plainContext, hk, Nat.add_sub_cancel, hshown, hcol, ← markAt_ofList]
    · rw [charOffset_of_isLine hl htext, charOffset_of_isLine hl htext, String.length_ofList,
        List.length_take]
      omega
    · rw [String.toList_ofList]
      exact isPrefix_drop_charOffset hl htext col

/-- A line that is not there, and a column past a line with a character of two bytes that a carriage
return and a line feed close: the mark stands behind the text of that line. -/
theorem plainContext_marks_lineEnd :
    PairsReturns "a\r\né1\r\nb".toList ∧
      plainContext ⟨"", ⟨4, 1, 4, 1⟩⟩ "a\r\né1\r\nb" = [] ∧
      ∃ before after : String,
        (lines "a\r\né1\r\nb")[1]? = some (before ++ after) ∧
        plainContext ⟨"", ⟨2, 9, 2, 9⟩⟩ "a\r\né1\r\nb" =
          ["   line 2 column 9:", "   " ++ (before ++ " ⚠ " ++ after)] ∧
        charOffset "a\r\né1\r\nb" 2 9 = charOffset "a\r\né1\r\nb" 2 1 + before.length := by
  have hsource : PairsReturns "a\r\né1\r\nb".toList := by decide
  obtain ⟨before, after, hshown, hcontext, hoffset, -⟩ :=
    (plainContext_marks hsource ⟨"", ⟨2, 9, 2, 9⟩⟩ (by decide)).2 (by decide)
  have hnone := (plainContext_marks hsource ⟨"", ⟨4, 1, 4, 1⟩⟩ (by decide)).1 (by decide)
  exact ⟨hsource, hnone, before, after, hshown, hcontext, hoffset⟩

end Diagnostic

end GroovyLowering
