import GroovyLowering.Literal.Quoted
import GroovyLowering.Text.Lines
import Mathlib.Tactic.SplitIfs

/-!
# What stands between delimiters

A literal is read by normalising its line ends and then cutting off its delimiters by their length
in bytes.  Delimiters have no line ends in them.  So normalising changes only what stands between
them, and cutting gives back just that (`strip_between`), whatever it is: characters of several
bytes, parts of escapes, or line ends right beside a delimiter.
-/

namespace GroovyLowering

namespace Text.HasNoLineEnd

variable {cs : List Char}

theorem not_mem (h : HasNoLineEnd cs) : '\r' ∉ cs := fun hmem => nomatch h _ hmem

theorem head?_ne (h : HasNoLineEnd cs) : cs.head? ≠ some '\n' :=
  fun hhead => nomatch h _ (List.mem_of_head? hhead)

end Text.HasNoLineEnd

namespace Literal

open Text (HasNoLineEnd)

variable {cs front back : List Char}

/-! ## Lengths in bytes -/

theorem byteLength_append (front back : List Char) :
    byteLength (front ++ back) = byteLength front + byteLength back := by
  induction front with
  | nil => exact (Nat.zero_add _).symm
  | cons c front ih => rw [List.cons_append, byteLength, byteLength, ih, Nat.add_assoc]

theorem byteLength_reverse (cs : List Char) : byteLength cs.reverse = byteLength cs := by
  induction cs with
  | nil => rfl
  | cons c cs ih =>
    rw [List.reverse_cons, byteLength_append, ih, byteLength, byteLength, byteLength]
    omega

theorem eq_nil_of_byteLength_eq_zero (h : byteLength cs = 0) : cs = [] := by
  cases cs with
  | nil => rfl
  | cons c cs =>
    have hpos := c.utf8Size_pos
    rw [byteLength] at h
    omega

theorem dropBytes?_append (front back : List Char) :
    dropBytes? (byteLength front) (front ++ back) = some back := by
  induction front with
  | nil => rw [byteLength, List.nil_append, dropBytes?]
  | cons c front ih =>
    obtain ⟨k, hk⟩ := Nat.exists_eq_add_one.2 c.utf8Size_pos
    have hlength : byteLength (c :: front) = k + byteLength front + 1 := by
      rw [byteLength, hk]
      omega
    have hrest : k + byteLength front + 1 - c.utf8Size = byteLength front := by omega
    rw [hlength, List.cons_append, dropBytes?, if_pos (by omega), hrest, ih]

/-- Cutting off the delimiters gives back what stands between them. -/
theorem strip_append (opening content closing : List Char) :
    strip (byteLength opening) (byteLength closing) (opening ++ content ++ closing) = content := by
  rw [strip]
  split_ifs with hshort
  · -- Nothing stands between delimiters that take all of the text.
    rw [byteLength_append, byteLength_append] at hshort
    exact (eq_nil_of_byteLength_eq_zero (by omega)).symm
  · have hfront : dropBytes? (byteLength opening) (opening ++ content ++ closing) =
        some (content ++ closing) := by
      rw [List.append_assoc, dropBytes?_append]
    have hback : dropBytes? (byteLength closing) (content ++ closing).reverse =
        some content.reverse := by
      rw [List.reverse_append, ← byteLength_reverse, dropBytes?_append]
    rw [hfront, Option.bind_some, hback, Option.map_some, List.reverse_reverse, Option.getD_some]

/-! ## Line ends -/

theorem normalizeLineEnds_append_of_not_mem (h : '\r' ∉ front) (cs : List Char) :
    normalizeLineEnds (front ++ cs) = front ++ normalizeLineEnds cs := by
  induction front with
  | nil => rfl
  | cons c front ih =>
    obtain ⟨hc, hfront⟩ := List.ne_and_not_mem_of_not_mem_cons h
    rw [List.cons_append, normalizeLineEnds, ih hfront, List.cons_append]
    exact fun rest hreturn _ => hc hreturn.symm

/-- Without a carriage return there is nothing to normalise. -/
theorem normalizeLineEnds_of_not_mem (h : '\r' ∉ cs) : normalizeLineEnds cs = cs := by
  have hnil := normalizeLineEnds_append_of_not_mem h []
  rwa [normalizeLineEnds, List.append_nil] at hnil

theorem normalizeLineEndsIf_of_not_mem (applies : Bool) (h : '\r' ∉ cs) :
    normalizeLineEndsIf applies cs = cs := by
  rw [normalizeLineEndsIf, normalizeLineEnds_of_not_mem h, ite_self]

/-- A text is normalised without what follows it, unless a line end could run over into that. -/
theorem normalizeLineEnds_append (h : back.head? ≠ some '\n') (cs : List Char) :
    normalizeLineEnds (cs ++ back) = normalizeLineEnds cs ++ normalizeLineEnds back := by
  fun_induction normalizeLineEnds cs with
  | case1 => rfl
  | case2 rest ih => exact congrArg (List.cons '\n') ih
  | case3 c rest hpair ih =>
    rw [List.cons_append, normalizeLineEnds, ih, List.cons_append]
    intro more hreturn hrest
    cases rest with
    | nil =>
      rw [List.nil_append] at hrest
      exact h (by rw [hrest, List.head?_cons])
    | cons d rest =>
      obtain ⟨rfl, -⟩ := List.cons.inj hrest
      exact hpair rest hreturn rfl

section

variable (hfront : HasNoLineEnd front) (hback : HasNoLineEnd back)
include hfront hback

theorem normalizeLineEnds_between (content : List Char) :
    normalizeLineEnds (front ++ content ++ back) = front ++ normalizeLineEnds content ++ back := by
  rw [normalizeLineEnds_append hback.head?_ne, normalizeLineEnds_append_of_not_mem hfront.not_mem,
    normalizeLineEnds_of_not_mem hback.not_mem]

/-- What is left of a text without its delimiters is what stands between them, normalised if the
text was. -/
theorem strip_between (applies : Bool) (content : List Char) :
    strip (byteLength front) (byteLength back)
      (normalizeLineEndsIf applies (front ++ content ++ back)) =
        normalizeLineEndsIf applies content := by
  cases applies with
  | false => exact strip_append front content back
  | true =>
    rw [normalizeLineEndsIf, if_pos rfl, normalizeLineEnds_between hfront hback, strip_append]
    rfl

end

/-! ## Literals -/

namespace StringStyle

theorem hasNoLineEnd_opening (style : StringStyle) : HasNoLineEnd style.opening := by
  cases style <;> decide

theorem hasNoLineEnd_closing (style : StringStyle) : HasNoLineEnd style.closing := by
  cases style <;> decide

end StringStyle

/-- The value of a literal whose front tells the style of its delimiters. -/
theorem unquote?_between {style : StringStyle} {content : List Char}
    (h : StringStyle.of? (style.opening ++ content ++ style.closing) = some style) :
    unquote? (style.opening ++ content ++ style.closing) =
      some (decode style.escapeMode (normalizeLineEndsIf style.normalizesLineEnds content)) := by
  rw [unquote?, h, Option.map_some,
    strip_between style.hasNoLineEnd_opening style.hasNoLineEnd_closing]

end Literal

end GroovyLowering
