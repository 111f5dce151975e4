import GroovyLowering.Tree.Extent
import Mathlib.Data.List.TakeWhile
import Mathlib.Data.Prod.Lex

/-!
# Positions in a text

The position behind a text is the line and the column of the character that comes next.  Counting
goes one way, from a text to the position behind it (`Text.behind`), and looking an offset up goes
the other way.  The second undoes the first, whatever follows the text (`Text.offsetIn_behind`).

A token that starts at the position behind a text stops at the position behind the text and the
token (`Token.stop_eq_behind`), however many lines it runs over.

Positions are compared by line and then by column, and a longer text has a position no earlier than
the texts it starts with (`Text.behind_le_behind`).
-/

namespace GroovyLowering

namespace Text

/-! ## The position behind a text -/

/-- The line and the column, counted from 1, of what follows a text. -/
def behind (front : List Char) : Nat × Nat := (front.count '\n' + 1, (lastLine front).length + 1)

/-- The last line of a text that ends with another one. -/
theorem lastLine_append (front back : List Char) :
    lastLine (front ++ back) = if '\n' ∈ back then lastLine back else lastLine front ++ back := by
  split_ifs with h
  · have hshort : (back.reverse.takeWhile (· != '\n')).length ≠ back.reverse.length := by
      intro hlength
      have hall := (List.takeWhile_prefix (· != '\n')).eq_of_length hlength
      have hfeed := List.takeWhile_eq_self_iff.1 hall '\n' (List.mem_reverse.2 h)
      exact absurd hfeed (by decide)
    rw [lastLine, List.reverse_append, List.takeWhile_append, if_neg hshort, lastLine]
  · have hall : back.reverse.takeWhile (· != '\n') = back.reverse := by
      rw [List.takeWhile_eq_self_iff]
      intro c hc
      rw [bne_iff_ne]
      rintro rfl
      exact h (List.mem_reverse.1 hc)
    rw [lastLine, List.reverse_append, List.takeWhile_append, hall, if_pos rfl, lastLine,
      List.reverse_append, List.reverse_reverse]

theorem behind_append_of_not_mem (front : List Char) {back : List Char} (h : '\n' ∉ back) :
    behind (front ++ back) = ((behind front).1, (behind front).2 + back.length) := by
  rw [behind, behind, List.count_append, List.count_eq_zero_of_not_mem h, lastLine_append, if_neg h,
    List.length_append, Nat.add_zero, Nat.add_right_comm]

theorem behind_append_of_mem (front : List Char) {back : List Char} (h : '\n' ∈ back) :
    behind (front ++ back) =
      ((behind front).1 + back.count '\n', (lastLine back).length + 1) := by
  rw [behind, behind, List.count_append, lastLine_append, if_pos h, Nat.add_right_comm]

/-- The position behind a text, one character longer at its front.  A line feed moves the position
down, another character moves it to the right if it is on the same line. -/
theorem behind_cons (c : Char) (front : List Char) :
    behind (c :: front) =
      if c = '\n' then ((behind front).1 + 1, (behind front).2)
      else if '\n' ∈ front then behind front
      else ((behind front).1, (behind front).2 + 1) := by
  have hlast := lastLine_append [c] front
  rw [List.singleton_append] at hlast
  rw [behind, behind, hlast]
  split_ifs with hfeed hc hc
  · rw [hc, List.count_cons_self]
  · rw [List.count_cons_of_ne hc]
  · have hfront := lastLine_append [] front
    rw [List.nil_append, if_neg hfeed] at hfront
    rw [hc, List.count_cons_self, hfront]
    rfl
  · have hfront := lastLine_append [] front
    have hsingle := lastLine_append [] [c]
    rw [List.nil_append, if_neg hfeed] at hfront
    rw [List.nil_append, if_neg fun h => hc (List.mem_singleton.1 h).symm] at hsingle
    rw [List.count_cons_of_ne hc, hfront, hsingle, List.append_assoc, List.length_append,
      List.length_append, List.length_append, List.length_singleton]
    simp only [Prod.mk.injEq, true_and]
    omega

/-- The position does not move back when more is written. -/
theorem behind_le_behind (front back : List Char) :
    toLex (behind front) ≤ toLex (behind (front ++ back)) := by
  rw [Prod.Lex.toLex_le_toLex]
  by_cases h : '\n' ∈ back
  · have hpos := List.count_pos_iff.2 h
    rw [behind_append_of_mem front h]
    exact Or.inl (Nat.lt_add_of_pos_right hpos)
  · rw [behind_append_of_not_mem front h]
    exact Or.inr ⟨rfl, Nat.le_add_right _ _⟩

/-! ## Looking an offset up -/

/-- Behind a line feed the lines are counted anew. -/
theorem offsetIn_newline (cs : List Char) (line col : Nat) :
    offsetIn List.length (splitInclusive ('\n' :: cs)) (line + 2) col =
      1 + offsetIn List.length (splitInclusive cs) (line + 1) col := by
  rw [splitInclusive, if_pos rfl, offsetIn, if_neg (by omega), List.length_singleton]
  rfl

/-- On the line of a first character the columns are counted from behind it. -/
theorem offsetIn_cons_first {c : Char} (hc : c ≠ '\n') (cs : List Char) (col : Nat) :
    offsetIn List.length (splitInclusive (c :: cs)) 1 (col + 2) =
      1 + offsetIn List.length (splitInclusive cs) 1 (col + 1) := by
  rw [splitInclusive, if_neg hc]
  cases splitInclusive cs with
  | nil =>
    simp only [offsetIn, if_true, List.length_singleton]
    omega
  | cons l ls =>
    simp only [offsetIn, if_true, List.length_cons]
    omega

/-- On a later line a first character only shifts the offsets. -/
theorem offsetIn_cons_later {c : Char} (hc : c ≠ '\n') (cs : List Char) (line col : Nat) :
    offsetIn List.length (splitInclusive (c :: cs)) (line + 2) col =
      1 + offsetIn List.length (splitInclusive cs) (line + 2) col := by
  have hline : line + 2 ≠ 1 := by omega
  rw [splitInclusive, if_neg hc]
  cases splitInclusive cs with
  | nil => simp only [offsetIn, if_neg hline, List.length_singleton]
  | cons l ls =>
    simp only [offsetIn, if_neg hline, List.length_cons]
    omega

/-- **The offset of the position behind a text is its length**, whatever follows it. -/
theorem offsetIn_behind (front back : List Char) :
    offsetIn List.length (splitInclusive (front ++ back)) (behind front).1 (behind front).2 =
      front.length := by
  induction front with
  | nil =>
    show offsetIn List.length (splitInclusive back) 1 1 = 0
    cases splitInclusive back with
    | nil => rfl
    | cons l ls => exact Nat.zero_min l.length
  | cons c front ih =>
    have hlength : (c :: front).length = 1 + front.length := by
      rw [List.length_cons, Nat.add_comm]
    have hline : (behind front).1 = front.count '\n' + 1 := rfl
    rw [List.cons_append, behind_cons, hlength, ← ih]
    split_ifs with hc hfeed
    · subst hc
      exact offsetIn_newline (front ++ back) (front.count '\n') (behind front).2
    · -- The position is on a later line, which the first character is not on.
      obtain ⟨k, hk⟩ := Nat.exists_eq_add_one.2 (List.count_pos_iff.2 hfeed)
      rw [hline, hk]
      exact offsetIn_cons_later hc (front ++ back) k (behind front).2
    · have hzero := List.count_eq_zero_of_not_mem hfeed
      rw [hline, hzero]
      exact offsetIn_cons_first hc (front ++ back) (lastLine front).length

end Text

theorem Span.offsetOf_behind {source : String} {front back : List Char}
    (h : source.toList = front ++ back) :
    offsetOf source (Text.behind front).1 (Text.behind front).2 = front.length := by
  rw [offsetOf, h, Text.offsetIn_behind]

/-! ## Tokens -/

namespace Token

/-- The position of a token, as a line and a column counted from 1. -/
def start (t : Token) : Nat × Nat := (t.line, t.column + 1)

/-- The offset of a token in a source. -/
def offset (t : Token) (source : String) : Nat := Span.offsetOf source t.line (t.column + 1)

/-- The offset one past a token in a source. -/
def endOffset (t : Token) (source : String) : Nat := t.offset source + t.text.length

variable {t : Token} {source : String} {front back : List Char}

/-- A token stops at the position behind all that is written up to its end. -/
theorem stop_eq_behind (h : t.start = Text.behind front) :
    t.stop = Text.behind (front ++ t.text.toList) := by
  have hline : t.line = (Text.behind front).1 := congrArg Prod.fst h
  have hcolumn : t.column + 1 = (Text.behind front).2 := congrArg Prod.snd h
  rw [stop]
  by_cases hfeed : '\n' ∈ t.text.toList
  · have hcount := List.count_pos_iff.2 hfeed
    rw [if_neg hcount.ne', Text.behind_append_of_mem front hfeed, hline]
  · rw [if_pos (List.count_eq_zero_of_not_mem hfeed), Text.behind_append_of_not_mem front hfeed,
      hline, hcolumn, String.length_toList]

theorem offset_eq_length (h : t.start = Text.behind front)
    (hsource : source.toList = front ++ back) : t.offset source = front.length := by
  have hlookup := Span.offsetOf_behind hsource
  rw [← h] at hlookup
  exact hlookup

theorem endOffset_eq_length (h : t.start = Text.behind front)
    (hsource : source.toList = front ++ t.text.toList ++ back) :
    t.endOffset source = (front ++ t.text.toList).length := by
  rw [List.append_assoc] at hsource
  rw [endOffset, offset_eq_length h hsource, List.length_append, String.length_toList]

theorem offsetOf_stop (h : t.start = Text.behind front)
    (hsource : source.toList = front ++ t.text.toList ++ back) :
    Span.offsetOf source t.stop.1 t.stop.2 = t.endOffset source := by
  rw [stop_eq_behind h, Span.offsetOf_behind hsource, endOffset_eq_length h hsource]

end Token

end GroovyLowering
