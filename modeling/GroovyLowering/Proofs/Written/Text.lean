import GroovyLowering.Proofs.Construct

/-!
# What is written, spaces left out

Texts are compared without their spaces, as lists of characters (`unspaced`).  The text of a tree
written by hand is known from the steps that put it together, and a list with separators is
interleaved with them on both sides: in the tree (`unspaced_text_withSeparated`) and in the text
of an expression (`unspaced_intercalate`).
-/

namespace GroovyLowering

/-- The characters of a text, spaces left out. -/
def unspaced (text : String) : List Char := text.toList.filter (· != ' ')

@[simp] theorem unspaced_empty : unspaced "" = [] := rfl

@[simp] theorem unspaced_append (s t : String) : unspaced (s ++ t) = unspaced s ++ unspaced t := by
  rw [unspaced, String.toList_append, List.filter_append]
  rfl

theorem unspaced_join (texts : List String) :
    unspaced (String.join texts) = texts.flatMap unspaced := by
  induction texts with
  | nil => rfl
  | cons text texts ih => rw [String.join_cons, unspaced_append, ih, List.flatMap_cons]

/-- Leaving spaces out goes into a list with separators. -/
theorem unspaced_intercalate (separator : String) (texts : List String) :
    unspaced (separator.intercalate texts) =
      (unspaced separator).intercalate (texts.map unspaced) := by
  induction texts with
  | nil => rw [String.intercalate_nil, unspaced_empty, List.map_nil, List.intercalate_nil]
  | cons text texts ih =>
    cases texts with
    | nil => rw [String.intercalate_singleton, List.map_singleton, List.intercalate_singleton]
    | cons next texts =>
      rw [String.intercalate_cons_cons, unspaced_append, unspaced_append, ih]
      simp only [List.map_cons, List.intercalate_cons_cons, List.append_assoc]

/-! ## The separators of written forms -/

@[simp] theorem unspaced_space : unspaced " " = [] := rfl

@[simp] theorem unspaced_comma : unspaced ", " = [','] := rfl

@[simp] theorem unspaced_colon : unspaced ": " = unspaced ":" := rfl

@[simp] theorem unspaced_closing : unspaced ") " = unspaced ")" := rfl

@[simp] theorem unspaced_as : unspaced " as " = unspaced "as" := rfl

@[simp] theorem unspaced_then : unspaced " ? " = unspaced "?" := rfl

@[simp] theorem unspaced_else : unspaced " : " = unspaced ":" := rfl

@[simp] theorem unspaced_elvis : unspaced " ?: " = unspaced "?:" := rfl

/-! ## Trees written by hand -/

theorem allTokensIn_append (front back : List (Role × Element)) :
    allTokensIn (front ++ back) = allTokensIn front ++ allTokensIn back := by
  induction front with
  | nil => rfl
  | cons child front ih =>
    rw [List.cons_append, allTokensIn, allTokensIn, ih, List.append_assoc]

namespace Node

variable (n : Node) (r : Role)

/-- Children that are appended to a node are written behind it. -/
theorem text_append (back : List (Role × Element)) :
    text { n with children := n.children ++ back } = n.text ++ text ⟨n.kind, back⟩ := by
  obtain ⟨kind, front⟩ := n
  simp only [text, allTokens, allTokensIn_append, List.map_append, String.join_append]

@[simp] theorem text_bare (kind : NodeKind) : (bare kind).text = "" := rfl

@[simp] theorem text_withNode (c : Node) : (n.withNode r c).text = n.text ++ c.text := by
  rw [withNode, text_append]
  simp only [text, allTokens, allTokensIn, Element.allTokens, List.append_nil]

@[simp] theorem text_write (kind : TokenKind) (text : String) :
    (n.write r kind text).text = n.text ++ text := by
  rw [write, withToken, text_append]
  simp [Node.text, allTokens, allTokensIn, Element.allTokens, Token.unplaced]

@[simp] theorem text_punct (text : String) : (n.punct text).text = n.text ++ text := text_write ..

@[simp] theorem text_withNode? (c : Option Node) :
    (n.withNode? r c).text = n.text ++ (c.map text).getD "" := by
  cases c with
  | none => rw [withNode?, Option.map_none, Option.getD_none, String.append_empty]
  | some c => rw [withNode?, text_withNode, Option.map_some, Option.getD_some]

@[simp] theorem text_withNodes (cs : List Node) :
    (n.withNodes r cs).text = n.text ++ String.join (cs.map text) := by
  induction cs generalizing n with
  | nil => rw [List.map_nil, String.join_nil, String.append_empty]; rfl
  | cons c cs ih =>
    rw [show n.withNodes r (c :: cs) = (n.withNode r c).withNodes r cs from rfl, ih, text_withNode,
      List.map_cons, String.join_cons, String.append_assoc]

/-- Subtrees with separators between them are written with the separators between them. -/
theorem text_withSeparated (separator : String) (cs : List Node) :
    (n.withSeparated separator r cs).text = n.text ++ separator.intercalate (cs.map text) := by
  refine withSeparated_induction
    (P := fun m cs => m.text = n.text ++ separator.intercalate (cs.map text)) ?_ ?_ ?_ cs
  · rw [List.map_nil, String.intercalate_nil, String.append_empty]
  · intro c
    rw [text_withNode, List.map_singleton, String.intercalate_singleton]
  · intro m cs c hcs hm
    have hne : cs.map text ≠ [] := by simpa using hcs
    rw [text_withNode, text_punct, hm, List.map_append,
      String.intercalate_append_of_ne_nil hne (by simp), List.map_singleton,
      String.intercalate_singleton, String.append_assoc, String.append_assoc, String.append_assoc]

@[simp] theorem unspaced_text_withList (cs : List Node) :
    unspaced (n.withList r cs).text =
      unspaced n.text ++ [','].intercalate (cs.map fun c => unspaced c.text) := by
  rw [withList, text_withSeparated, unspaced_append, unspaced_intercalate, List.map_map]
  rfl

end Node

/-! ## Dotted names -/

namespace Production

variable (kind : NodeKind)

/-- A dotted name is put together from left to right. -/
theorem dotted_concat (parts : List String) (part : String) (h : parts ≠ []) :
    dotted kind (parts ++ [part]) =
      ((dotted kind parts).punct ".").write .part .identifier part := by
  cases parts with
  | nil => exact absurd rfl h
  | cons first others =>
    rw [List.cons_append, dotted, dotted, List.foldl_append]
    rfl

theorem tokens_part_dotted (parts : List String) :
    ((dotted kind parts).tokens .part).map Token.text = parts := by
  induction parts using List.reverseRecOn with
  | nil => rfl
  | append_singleton parts part ih =>
    by_cases h : parts = []
    · subst h
      rfl
    · rw [dotted_concat kind parts part h]
      simpa using ih

@[simp] theorem text_dotted (parts : List String) :
    (dotted kind parts).text = ".".intercalate parts := by
  induction parts using List.reverseRecOn with
  | nil => rfl
  | append_singleton parts part ih =>
    by_cases h : parts = []
    · subst h
      simp [dotted, String.intercalate_singleton]
    · rw [dotted_concat kind parts part h, Node.text_write, Node.text_punct, ih,
        String.intercalate_append_of_ne_nil h (List.cons_ne_nil _ _),
        String.intercalate_singleton]

end Production

end GroovyLowering
