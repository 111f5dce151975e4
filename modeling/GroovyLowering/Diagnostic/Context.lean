import GroovyLowering.Error

/-!
# Offsets and plain context for a report

A report points into the text of a line and never behind its line end.  So a column past the line
counts as the end of what the line shows.

The plain context of an error is the line it starts on, with a mark in front of the character it
starts at.
-/

namespace GroovyLowering.Diagnostic

/-- The offset of a position in a source, in characters.  A column past its line counts as the end
of what the line shows, in front of its line end; a line past the source as the end of the
source. -/
def charOffset (source : String) (line col : Nat) : Nat :=
  Text.offsetIn (fun l => (Text.trimLineEnd l).length) (Text.splitInclusive source.toList) line col

/-- The offsets at which a region starts and ends. -/
def charRange (source : String) (span : Span) : Nat × Nat :=
  let first := charOffset source span.startLine span.startCol
  (first, max (charOffset source span.endLine span.endCol) first)

/-- The mark in front of the character an error starts at. -/
def mark : List Char := [' ', '⚠', ' ']

/-- A line with the mark in front of the character in a column. -/
def markAt (line : String) (col : Nat) : String :=
  let before := min (col - 1) line.length
  String.ofList (line.toList.take before ++ mark ++ line.toList.drop before)

/-- The line an error starts on with a mark in it, under a heading.  There is nothing to show when
the source has no such line. -/
def plainContext (record : ErrorRecord) (source : String) : List String :=
  match (Text.lines source)[record.span.startLine - 1]? with
  | none => []
  | some line =>
    ["   line " ++ toString record.span.startLine ++ " column " ++
        toString record.span.startCol ++ ":",
      "   " ++ markAt line record.span.startCol]

end GroovyLowering.Diagnostic
