import GroovyLowering.Proofs.Layout.Position
import GroovyLowering.Tree.Layout

/-!
# The cursor of a layout

Laying a tree out goes to a new line and writes tokens, and does nothing else (`Cursor.Writes`).
At every step the position of the cursor is the one behind its text (`Cursor.Valid`).

So all that matters of a layout is a list of tokens and the text they are written to: each token
starts at the position behind what is written before it, and between two tokens there is at most one
space or one line feed (`Spread`).  A new line is gone to only where something is written on the
line, and a space is left only there too, so the two never come together.
-/

namespace GroovyLowering

/-! ## Tokens spread over a text -/

/-- What may stand between two tokens. -/
def gaps : List (List Char) := [[], [' '], ['\n']]

/-- Tokens are written behind a front, in order and with a gap before each of them, up to a whole
text. -/
inductive Spread : List Char → List Token → List Char → Prop where
  | nil {front gap : List Char} (hgap : gap ∈ gaps) : Spread front [] (front ++ gap)
  | cons {front gap : List Char} {t : Token} {ts : List Token} {whole : List Char}
      (hgap : gap ∈ gaps) (hstart : t.start = Text.behind (front ++ gap))
      (h : Spread (front ++ gap ++ t.text.toList) ts whole) : Spread front (t :: ts) whole

namespace Spread

variable {front whole : List Char} {ts : List Token} {t : Token}

theorem exists_append (h : Spread front ts whole) : ∃ rest, whole = front ++ rest := by
  induction h with
  | nil => exact ⟨_, rfl⟩
  | @cons front gap t ts whole _ _ _ ih =>
    obtain ⟨rest, hrest⟩ := ih
    exact ⟨gap ++ t.text.toList ++ rest, by simp only [hrest, List.append_assoc]⟩

/-- Each token is somewhere behind the front, at the position behind all that is before it. -/
theorem exists_of_mem (h : Spread front ts whole) (ht : t ∈ ts) :
    ∃ more after, whole = front ++ more ++ t.text.toList ++ after ∧
      t.start = Text.behind (front ++ more) := by
  induction h with
  | nil => cases ht
  | @cons front gap u ts whole hgap hstart h ih =>
    rcases List.mem_cons.1 ht with rfl | ht
    · obtain ⟨after, hafter⟩ := h.exists_append
      exact ⟨gap, after, hafter, hstart⟩
    · obtain ⟨more, after, hwhole, hbehind⟩ := ih ht
      refine ⟨gap ++ u.text.toList ++ more, after, ?_, ?_⟩
      · simp only [hwhole, List.append_assoc]
      · simp only [hbehind, List.append_assoc]

end Spread

/-! ## The cursor -/

namespace Cursor

/-- The position is the one behind the text. -/
structure Valid (c : Cursor) : Prop where
  line : c.line = c.text.toList.count '\n' + 1
  column : c.column = (Text.lastLine c.text.toList).length

variable {c d e : Cursor} {ts us : List Token}

theorem valid_empty : Valid {} := ⟨rfl, rfl⟩

theorem valid_iff : c.Valid ↔ (c.line, c.column + 1) = Text.behind c.text.toList := by
  rw [Text.behind, Prod.mk.injEq, Nat.add_right_cancel_iff]
  exact ⟨fun h => ⟨h.line, h.column⟩, fun h => ⟨h.1, h.2⟩⟩

theorem Valid.newLine (h : c.Valid) : c.newLine.Valid := by
  rw [Cursor.newLine]
  split
  · exact h
  · have hfeed : '\n' ∈ "\n".toList := by decide
    have hline := congrArg Prod.fst (valid_iff.1 h)
    rw [valid_iff, String.toList_append, Text.behind_append_of_mem _ hfeed, ← hline]
    rfl

theorem Valid.write (h : c.Valid) (text : String) : (c.write text).Valid := by
  have hline := congrArg Prod.fst (valid_iff.1 h)
  have hcolumn := congrArg Prod.snd (valid_iff.1 h)
  rw [valid_iff, Cursor.write, String.toList_append]
  by_cases hfeed : '\n' ∈ text.toList
  · have hcount := List.count_pos_iff.2 hfeed
    rw [Text.behind_append_of_mem _ hfeed, ← hline]
    simp only [if_neg hcount.ne']
  · rw [Text.behind_append_of_not_mem _ hfeed, ← hline, ← hcolumn]
    simp only [List.count_eq_zero_of_not_mem hfeed, if_true, Nat.add_zero, String.length_toList,
      Nat.add_right_comm]

theorem Valid.space (h : c.Valid) : c.space.Valid := by
  rw [Cursor.space]
  split
  · exact h
  · exact h.write " "

theorem Valid.place (h : c.Valid) (t : Token) : (t.place c).2.Valid := h.space.write t.text

/-! ## What a layout does -/

/-- Tokens are written from one cursor to another, with new lines before them. -/
inductive Writes : Cursor → List Token → Cursor → Prop where
  | done (c : Cursor) : Writes c [] c
  | newLine {c d : Cursor} {ts : List Token} (h : Writes c.newLine ts d) : Writes c ts d
  | token {c d : Cursor} {ts : List Token} (t : Token) (h : Writes (t.place c).2 ts d) :
    Writes c ((t.place c).1 :: ts) d

theorem Writes.trans (h : Writes c ts d) (h' : Writes d us e) : Writes c (ts ++ us) e := by
  induction h with
  | done => exact h'
  | newLine _ ih => exact .newLine (ih h')
  | token t _ ih => exact .token t (ih h')

theorem Writes.of_newLineIf {applies : Bool} (h : Writes (if applies then c.newLine else c) ts d) :
    Writes c ts d := by
  cases applies with
  | false => exact h
  | true => exact .newLine h

/-- What is written is spread over the text.  The last gap may be written already. -/
theorem Writes.spread (h : Writes c ts d) (hc : c.Valid) {front gap : List Char}
    (htext : c.text.toList = front ++ gap) (hgap : gap = [] ∨ gap = ['\n'] ∧ c.column = 0) :
    Spread front ts d.text.toList := by
  induction h generalizing front gap with
  | done c =>
    rw [htext]
    refine .nil ?_
    rcases hgap with rfl | ⟨rfl, _⟩ <;> decide
  | @newLine c d ts h ih =>
    by_cases hstay : (c.text.isEmpty || c.column == 0) = true
    · have hsame : c.newLine = c := if_pos hstay
      rw [hsame] at ih
      exact ih hc htext hgap
    · -- Something is written on the line, so no gap is open yet.
      have hcolumn : c.column ≠ 0 := by
        intro hzero
        rw [hzero] at hstay
        exact hstay (Bool.or_true _)
      have hnone : gap = [] := hgap.resolve_right fun h => hcolumn h.2
      have hnew : c.newLine = ⟨c.line + 1, 0, c.text ++ "\n"⟩ := if_neg hstay
      subst hnone
      refine ih hc.newLine ?_ (Or.inr ⟨rfl, ?_⟩)
      · rw [hnew, String.toList_append, htext, List.append_nil]
        rfl
      · rw [hnew]
  | @token c d ts t h ih =>
    have hstart : (t.place c).1.start = Text.behind c.space.text.toList :=
      valid_iff.1 hc.space
    have hwritten : (t.place c).2.text.toList = c.space.text.toList ++ t.text.toList :=
      String.toList_append ..
    obtain ⟨gap', hgap', hspace⟩ : ∃ gap' ∈ gaps, c.space.text.toList = front ++ gap' := by
      by_cases hcolumn : c.column = 0
      · have hsame : c.space = c := if_pos hcolumn
        refine ⟨gap, ?_, by rw [hsame, htext]⟩
        rcases hgap with rfl | ⟨rfl, _⟩ <;> decide
      · have hnone : gap = [] := hgap.resolve_right fun h => hcolumn h.2
        have hspace : c.space = { c with column := c.column + 1, text := c.text ++ " " } :=
          if_neg hcolumn
        refine ⟨[' '], by decide, ?_⟩
        rw [hspace, String.toList_append, htext, hnone, List.append_nil]
        rfl
    rw [hspace] at hstart hwritten
    exact .cons hgap' hstart (ih (hc.place t) (by rw [hwritten, List.append_nil]; rfl) (Or.inl rfl))

end Cursor

/-! ## Placing a tree -/

open Cursor (Writes)

mutual

theorem Node.writes_place : ∀ (n : Node) (c : Cursor),
    Writes c (n.place c).1.allTokens (n.place c).2
  | ⟨kind, children⟩, c => by
    rw [Node.place, Node.allTokens]
    exact writes_placeIn _ _ children c

theorem Element.writes_place : ∀ (e : Element) (c : Cursor),
    Writes c (e.place c).1.allTokens (e.place c).2
  | .node n, c => by
    rw [Element.place, Element.allTokens]
    exact Node.writes_place n c
  | .token t, c => by
    rw [Element.place, Element.allTokens]
    exact .token t (.done _)

theorem writes_placeIn (isStacked hasStatements : Bool) :
    ∀ (children : List (Role × Element)) (c : Cursor),
      Writes c (allTokensIn (placeIn isStacked hasStatements children c).1)
        (placeIn isStacked hasStatements children c).2
  | [], c => .done c
  | (role, e) :: rest, c => by
    rw [placeIn, allTokensIn]
    have hfirst := Element.writes_place e (if isStacked && (role == .punct && rest.isEmpty &&
      hasStatements || role.startsLine) then c.newLine else c)
    exact hfirst.of_newLineIf.trans (writes_placeIn isStacked hasStatements rest _)

end

/-- **The tokens of a laid-out tree are spread over its source.** -/
theorem Node.spread_layOut (n : Node) :
    Spread [] n.layOut.root.allTokens n.layOut.source.toList :=
  (n.writes_place {}).spread Cursor.valid_empty rfl (Or.inl rfl)

end GroovyLowering
