/-!
# Lines of a text

Positions in a source are written as a line and a column, both counted from 1, and a report needs
them as an offset into the text.  This module cuts a text into its lines and looks an offset up in
them.

* `splitInclusive` keeps every line feed at the end of the line it closes, so the lines
  concatenate to the text (`splitInclusive_flatten`).
* `lines` are the same lines as they are shown, without their line ends.
* `offsetIn` adds up the lines before the wanted one and then moves along that line, no further
  than a given measure of it.  How far a column may reach is the only thing in which two look-ups
  differ, so it is a parameter.
-/

namespace GroovyLowering.Text

/-- The lines of a text, each with the line feed that closes it.  What follows the last line feed
is a line only if it is not empty. -/
def splitInclusive : List Char → List (List Char)
  | [] => []
  | c :: cs =>
    if c = '\n' then [c] :: splitInclusive cs
    else
      match splitInclusive cs with
      | [] => [[c]]
      | l :: ls => (c :: l) :: ls

/-- Nothing is lost between the lines. -/
theorem splitInclusive_flatten (cs : List Char) : (splitInclusive cs).flatten = cs := by
  induction cs with
  | nil => rfl
  | cons c cs ih =>
    unfold splitInclusive
    split
    · simp [ih]
    · split <;> simp_all

/-- A line without the line end that closes it: a line feed, or a carriage return and a line feed.
A carriage return that no line feed follows belongs to the line. -/
def dropLineEnd : List Char → List Char
  | [] => []
  | ['\n'] => []
  | ['\r', '\n'] => []
  | c :: cs => c :: dropLineEnd cs

/-- The lines of a text as they are shown. -/
def lines (text : String) : List String :=
  (splitInclusive text.toList).map fun l => String.ofList (dropLineEnd l)

/-- What is written behind the last line feed. -/
def lastLine (cs : List Char) : List Char := (cs.reverse.takeWhile (· != '\n')).reverse

/-- A character of a line end. -/
def isLineEnd (c : Char) : Bool := c == '\n' || c == '\r'

/-- A text with no character of a line end in it. -/
def HasNoLineEnd (cs : List Char) : Prop := ∀ c ∈ cs, isLineEnd c = false

instance (cs : List Char) : Decidable (HasNoLineEnd cs) :=
  List.decidableBAll (fun c => isLineEnd c = false) cs

theorem hasNoLineEnd_nil : HasNoLineEnd [] := fun _ hc => nomatch hc

theorem hasNoLineEnd_cons {c : Char} {cs : List Char} :
    HasNoLineEnd (c :: cs) ↔ isLineEnd c = false ∧ HasNoLineEnd cs := List.forall_mem_cons

/-- A line without all line end characters it closes with. -/
def trimLineEnd (l : List Char) : List Char := (l.reverse.dropWhile isLineEnd).reverse

/-- The offset of a line and a column in a list of lines.  The column is moved along its line by
at most `reach` of the line; a line that is not there gives the end of the text. -/
def offsetIn (reach : List Char → Nat) : List (List Char) → Nat → Nat → Nat
  | [], _, _ => 0
  | l :: ls, line, col =>
    if line = 1 then min (col - 1) (reach l)
    else l.length + offsetIn reach ls (line - 1) col

end GroovyLowering.Text
