import GroovyLowering.Diagnostic.Context
import Mathlib.Data.List.TakeWhile
import Mathlib.Data.Prod.Lex

/-!
# Two look-ups of an offset

A span and a report both turn a line and a column into an offset.  They walk the lines alike
(`Text.offsetIn`) and differ in how far a column reaches along its line: a span reaches behind the
line feed, a report to the end of what the line shows.

Whatever the reach is, the offset of a position lies between the start of its line and the start of
the next one (`Text.lineStart_le_offsetIn`, `Text.offsetIn_le_lineStart_succ`).  So both look-ups
keep the order of positions, and the two offsets of one position are no further apart than what
closes the line (`Diagnostic.offsets_agree`).
-/

namespace GroovyLowering

namespace Text

/-! ## Where lines start -/

/-- The offset at which the line behind a number of lines starts. -/
def lineStart (ls : List (List Char)) (k : Nat) : Nat := (ls.take k).flatten.length

variable {ls : List (List Char)} {l : List Char} {j k : Nat}

theorem lineStart_succ (h : ls[k]? = some l) :
    lineStart ls (k + 1) = lineStart ls k + l.length := by
  rw [lineStart, lineStart, List.take_add_one, h, List.flatten_append, List.length_append]
  simp

theorem lineStart_mono (h : j ≤ k) : lineStart ls j ≤ lineStart ls k := by
  obtain ⟨d, rfl⟩ := Nat.exists_eq_add_of_le h
  rw [lineStart, lineStart, List.take_add, List.flatten_append, List.length_append]
  exact Nat.le_add_right _ _

/-- Behind the last line the text is at its end. -/
theorem lineStart_of_none (h : ls[k]? = none) : lineStart ls k = ls.flatten.length := by
  rw [lineStart, List.take_of_length_le (List.getElem?_eq_none_iff.1 h)]

/-! ## Offsets and the starts of lines -/

variable {reach reach' : List Char → Nat} {line col line' col' : Nat}

theorem offsetIn_of_some (h : ls[k]? = some l) (col : Nat) :
    offsetIn reach ls (k + 1) col = lineStart ls k + min (col - 1) (reach l) := by
  induction ls generalizing k with
  | nil => simp at h
  | cons first rest ih =>
    cases k with
    | zero =>
      rw [List.getElem?_cons_zero] at h
      cases h
      simp [offsetIn, lineStart]
    | succ k =>
      rw [List.getElem?_cons_succ] at h
      rw [offsetIn, if_neg (by omega), Nat.add_sub_cancel, ih h]
      simp only [lineStart, List.take_succ_cons, List.flatten_cons, List.length_append]
      omega

theorem offsetIn_of_none (h : ls[k]? = none) (col : Nat) :
    offsetIn reach ls (k + 1) col = lineStart ls k := by
  rw [lineStart_of_none h]
  induction ls generalizing k with
  | nil => rfl
  | cons first rest ih =>
    cases k with
    | zero => simp at h
    | succ k =>
      rw [List.getElem?_cons_succ] at h
      rw [offsetIn, if_neg (by omega), Nat.add_sub_cancel, ih h, List.flatten_cons,
        List.length_append]

/-- A look-up that reaches further gives a later offset. -/
theorem offsetIn_le_offsetIn (h : ∀ l, reach l ≤ reach' l) :
    offsetIn reach ls line col ≤ offsetIn reach' ls line col := by
  induction ls generalizing line with
  | nil => exact le_rfl
  | cons first rest ih =>
    rw [offsetIn, offsetIn]
    split_ifs
    · have := h first
      omega
    · exact Nat.add_le_add_left ih _

section

variable (hreach : ∀ l, reach l ≤ l.length)
include hreach

theorem offsetIn_le_length : offsetIn reach ls line col ≤ ls.flatten.length := by
  induction ls generalizing line with
  | nil => exact le_rfl
  | cons first rest ih =>
    rw [offsetIn, List.flatten_cons, List.length_append]
    split_ifs
    · exact (min_le_right _ _).trans ((hreach first).trans (Nat.le_add_right _ _))
    · exact Nat.add_le_add_left ih _

omit hreach in
theorem lineStart_le_offsetIn : lineStart ls k ≤ offsetIn reach ls (k + 1) col := by
  cases h : ls[k]? with
  | none => rw [offsetIn_of_none h]
  | some l =>
    rw [offsetIn_of_some h]
    exact Nat.le_add_right _ _

theorem offsetIn_le_lineStart_succ : offsetIn reach ls (k + 1) col ≤ lineStart ls (k + 1) := by
  cases h : ls[k]? with
  | none =>
    rw [offsetIn_of_none h]
    exact lineStart_mono (Nat.le_add_right k 1)
  | some l =>
    rw [offsetIn_of_some h, lineStart_succ h]
    exact Nat.add_le_add_left ((min_le_right _ _).trans (hreach l)) _

/-- Offsets keep the order of positions. -/
theorem offsetIn_mono (hline : 1 ≤ line) (h : toLex (line, col) ≤ toLex (line', col')) :
    offsetIn reach ls line col ≤ offsetIn reach ls line' col' := by
  obtain ⟨k, rfl⟩ := Nat.exists_eq_add_of_le' hline
  rcases Prod.Lex.toLex_le_toLex.1 h with hlt | ⟨rfl, hcol⟩
  · obtain ⟨k', rfl⟩ := Nat.exists_eq_add_of_le' (hline.trans hlt.le)
    calc offsetIn reach ls (k + 1) col
      _ ≤ lineStart ls (k + 1) := offsetIn_le_lineStart_succ hreach
      _ ≤ lineStart ls k' := lineStart_mono (Nat.lt_of_succ_lt_succ hlt)
      _ ≤ offsetIn reach ls (k' + 1) col' := lineStart_le_offsetIn
  · cases hl : ls[k]? with
    | none => rw [offsetIn_of_none hl, offsetIn_of_none hl]
    | some l =>
      rw [offsetIn_of_some hl, offsetIn_of_some hl]
      omega

end

/-! ## What closes a line -/

/-- The line end characters that a line closes with. -/
def lineEnd (l : List Char) : List Char := (l.reverse.takeWhile isLineEnd).reverse

theorem trimLineEnd_append_lineEnd (l : List Char) : trimLineEnd l ++ lineEnd l = l := by
  rw [trimLineEnd, lineEnd, ← List.reverse_append, List.takeWhile_append_dropWhile,
    List.reverse_reverse]

theorem length_trimLineEnd_add (l : List Char) :
    (trimLineEnd l).length + (lineEnd l).length = l.length := by
  rw [← List.length_append, trimLineEnd_append_lineEnd]

theorem length_trimLineEnd_le (l : List Char) : (trimLineEnd l).length ≤ l.length := by
  have := length_trimLineEnd_add l
  omega

end Text

/-! ## Spans -/

namespace Span

variable {source : String} {line col line' col' : Nat}

/-- The offsets that a look-up gives for the two ends of a span. -/
def endsBy (offset : Nat → Nat → Nat) (s : Span) : Nat × Nat :=
  (offset s.startLine s.startCol, offset s.endLine s.endCol)

theorem offsetOf_le_length : offsetOf source line col ≤ source.length := by
  have hle : offsetOf source line col ≤ (Text.splitInclusive source.toList).flatten.length :=
    Text.offsetIn_le_length fun _ => le_rfl
  rwa [Text.splitInclusive_flatten, String.length_toList] at hle

theorem offsetOf_mono (hline : 1 ≤ line) (h : toLex (line, col) ≤ toLex (line', col')) :
    offsetOf source line col ≤ offsetOf source line' col' :=
  Text.offsetIn_mono (fun _ => le_rfl) hline h

end Span

/-! ## Reports -/

namespace Diagnostic

open Text

variable {source : String} {line col line' col' : Nat}

/-- Two offsets in order and within a source. -/
def IsRange (source : String) (range : Nat × Nat) : Prop :=
  range.1 ≤ range.2 ∧ range.2 ≤ source.length

theorem charOffset_le_offsetOf : charOffset source line col ≤ Span.offsetOf source line col :=
  offsetIn_le_offsetIn length_trimLineEnd_le

theorem charOffset_mono (hline : 1 ≤ line) (h : toLex (line, col) ≤ toLex (line', col')) :
    charOffset source line col ≤ charOffset source line' col' :=
  offsetIn_mono length_trimLineEnd_le hline h

/-- On a line that is there the two offsets are the same up to the end of what the line shows, and
never further apart than what closes the line. -/
theorem offsets_of_some {l : List Char} (hline : 1 ≤ line)
    (hl : (splitInclusive source.toList)[line - 1]? = some l) :
    (col - 1 ≤ (trimLineEnd l).length →
      charOffset source line col = Span.offsetOf source line col) ∧
    Span.offsetOf source line col ≤ charOffset source line col + (lineEnd l).length := by
  obtain ⟨k, rfl⟩ := Nat.exists_eq_add_of_le' hline
  rw [Nat.add_sub_cancel] at hl
  have hlength := length_trimLineEnd_add l
  rw [charOffset, Span.offsetOf, offsetIn_of_some hl, offsetIn_of_some hl]
  exact ⟨fun hcol => by omega, by omega⟩

/-- A line past the source is the end of the source for both. -/
theorem offsets_of_none (hline : 1 ≤ line)
    (hl : (splitInclusive source.toList)[line - 1]? = none) :
    charOffset source line col = Span.offsetOf source line col := by
  obtain ⟨k, rfl⟩ := Nat.exists_eq_add_of_le' hline
  rw [Nat.add_sub_cancel] at hl
  rw [charOffset, Span.offsetOf, offsetIn_of_none hl, offsetIn_of_none hl]

/-- **The offsets of spans and of reports.**  The offset in a report is at most the one of a span,
and that is at most the length of the source.  They are the same for a column on what its line shows
and for a line past the source, and otherwise no further apart than what closes the line.  Both keep
the order of positions, so for a span that is written the right way round both ranges are the
offsets of its two ends, in order and within the source. -/
theorem offsets_agree (source : String) :
    (∀ line col, 1 ≤ line →
      charOffset source line col ≤ Span.offsetOf source line col ∧
        Span.offsetOf source line col ≤ source.length ∧
        (∀ l, (splitInclusive source.toList)[line - 1]? = some l →
          (col - 1 ≤ (trimLineEnd l).length →
            charOffset source line col = Span.offsetOf source line col) ∧
          Span.offsetOf source line col ≤ charOffset source line col + (lineEnd l).length) ∧
        ((splitInclusive source.toList)[line - 1]? = none →
          charOffset source line col = Span.offsetOf source line col)) ∧
    (∀ line col line' col', 1 ≤ line → toLex (line, col) ≤ toLex (line', col') →
      charOffset source line col ≤ charOffset source line' col' ∧
        Span.offsetOf source line col ≤ Span.offsetOf source line' col') ∧
    ∀ span : Span, 1 ≤ span.startLine → toLex span.start ≤ toLex span.stop →
      charRange source span = span.endsBy (charOffset source) ∧
        IsRange source (charRange source span) ∧
        span.charRange source = span.endsBy (Span.offsetOf source) ∧
        IsRange source (span.charRange source) := by
  refine ⟨fun line col hline => ?_, fun line col line' col' hline h => ?_, fun span hline h => ?_⟩
  · exact ⟨charOffset_le_offsetOf, Span.offsetOf_le_length, fun l hl => offsets_of_some hline hl,
      offsets_of_none hline⟩
  · exact ⟨charOffset_mono hline h, Span.offsetOf_mono hline h⟩
  · have hreport : charOffset source span.startLine span.startCol ≤
        charOffset source span.endLine span.endCol := charOffset_mono hline h
    have hspan : Span.offsetOf source span.startLine span.startCol ≤
        Span.offsetOf source span.endLine span.endCol := Span.offsetOf_mono hline h
    have hcharRange : charRange source span = span.endsBy (charOffset source) :=
      congrArg (Prod.mk _) (Nat.max_eq_left hreport)
    have hrange : span.charRange source = span.endsBy (Span.offsetOf source) :=
      congrArg (Prod.mk _) (Nat.max_eq_left hspan)
    rw [hcharRange, hrange]
    exact ⟨rfl, ⟨hreport, charOffset_le_offsetOf.trans Span.offsetOf_le_length⟩, rfl,
      ⟨hspan, Span.offsetOf_le_length⟩⟩

/-- Columns past a line that a carriage return and a line feed close: a report stops in front of
both, a span behind them. -/
theorem offsets_agree_lineEnd :
    charOffset "a\r\nb" 1 9 = 1 ∧ Span.offsetOf "a\r\nb" 1 9 = 3 ∧
      Span.offsetOf "a\r\nb" 1 9 ≤ charOffset "a\r\nb" 1 9 + (lineEnd ['a', '\r', '\n']).length ∧
      charOffset "a\r\nb" 1 2 = Span.offsetOf "a\r\nb" 1 2 ∧
      charOffset "a\r\nb" 3 1 = Span.offsetOf "a\r\nb" 3 1 ∧
      charOffset "a\r\nb" 1 9 ≤ charOffset "a\r\nb" 2 1 ∧
      charRange "a\r\nb" ⟨1, 9, 2, 2⟩ = (1, 4) ∧
      IsRange "a\r\nb" (charRange "a\r\nb" ⟨1, 9, 2, 2⟩) := by
  obtain ⟨hposition, hmono, hspan⟩ := offsets_agree "a\r\nb"
  have hfirst : (splitInclusive "a\r\nb".toList)[1 - 1]? = some ['a', '\r', '\n'] := by decide
  obtain ⟨hcharRange, hrange, -⟩ := hspan ⟨1, 9, 2, 2⟩ (by decide) (by decide)
  exact ⟨by decide, by decide, ((hposition 1 9 (by decide)).2.2.1 _ hfirst).2,
    ((hposition 1 2 (by decide)).2.2.1 _ hfirst).1 (by decide),
    (hposition 3 1 (by decide)).2.2.2 (by decide), (hmono 1 9 2 1 (by decide) (by decide)).1,
    hcharRange.trans (by decide), hrange⟩

end Diagnostic

end GroovyLowering
