import GroovyLowering.Text.Lines

/-!
# Source spans

A span is a region of a source: where it starts and where it ends, in lines and columns.  Both are
counted from 1 and the end column points one past the last character.

`charRange` turns a span into a pair of character offsets.  The end is never before the start,
also for a span that is written the wrong way round.
-/

namespace GroovyLowering

/-- A region of a source. -/
structure Span where
  /-- The line the region starts on. -/
  startLine : Nat
  /-- The column of its first character. -/
  startCol : Nat
  /-- The line the region ends on. -/
  endLine : Nat
  /-- The column one past its last character. -/
  endCol : Nat
deriving DecidableEq, Repr

namespace Span

/-- The span of no characters at a position. -/
def point (line col : Nat) : Span := ⟨line, col, line, col⟩

/-- Where something sits that has no position of its own and nothing around it. -/
def fileStart : Span := point 1 1

instance : Inhabited Span := ⟨fileStart⟩

/-- From the start of one span to the end of another. -/
def upTo (first last : Span) : Span :=
  ⟨first.startLine, first.startCol, last.endLine, last.endCol⟩

/-- The same end, with the start moved to where `first` starts. -/
def withStartOf (s first : Span) : Span := first.upTo s

/-- The position of the first character, as a line and a column. -/
def start (s : Span) : Nat × Nat := (s.startLine, s.startCol)

/-- The position one past the last character, as a line and a column. -/
def stop (s : Span) : Nat × Nat := (s.endLine, s.endCol)

/-- Whether the region runs over a line end. -/
def isMultiline (s : Span) : Bool := s.startLine < s.endLine

/-- Spans are ordered by their start, and by their end where they start together. -/
def compare (a b : Span) : Ordering :=
  (Ord.compare a.startLine b.startLine).then <|
  (Ord.compare a.startCol b.startCol).then <|
  (Ord.compare a.endLine b.endLine).then <|
  Ord.compare a.endCol b.endCol

instance : Ord Span := ⟨compare⟩

/-- The written form, `line:column-line:column`. -/
def text (s : Span) : String :=
  toString s.startLine ++ ":" ++ toString s.startCol ++ "-" ++
    toString s.endLine ++ ":" ++ toString s.endCol

/-- The offset of a position in a source, in characters.  A column past its line counts as the
end of the line, behind the line feed; a line past the source as the end of the source. -/
def offsetOf (source : String) (line col : Nat) : Nat :=
  Text.offsetIn List.length (Text.splitInclusive source.toList) line col

/-- The character offsets at which the region starts and ends. -/
def charRange (s : Span) (source : String) : Nat × Nat :=
  let first := offsetOf source s.startLine s.startCol
  (first, max (offsetOf source s.endLine s.endCol) first)

end Span

end GroovyLowering
