import GroovyLowering.Span
import GroovyLowering.Tree.Node

/-!
# Where tokens and nodes are in the source

Tokens count the characters before them on their line, spans count columns from 1.  The span of a
token stays on the line it starts on, also when the token runs over several lines.

The span of a node goes from the start of its first token to the end of its last one.  A last
token that runs over several lines, such as the end of a multi-line string, closes inside its own
last line.  A node without tokens has no place of its own, so it takes a fallback.
-/

namespace GroovyLowering

/-- The span of a token, on the line it starts on. -/
def Token.span (t : Token) : Span :=
  ⟨t.line, t.column + 1, t.line, t.column + 1 + t.text.length⟩

/-- The position one past a token, on the line it ends on. -/
def Token.stop (t : Token) : Nat × Nat :=
  let newlines := t.text.toList.count '\n'
  if newlines = 0 then (t.line, t.column + 1 + t.text.length)
  else (t.line + newlines, (Text.lastLine t.text.toList).length + 1)

/-- The span from the first to the last token, or the fallback when there is none. -/
def Node.spanOr (n : Node) (fallback : Span) : Span :=
  match n.firstToken?, n.lastToken? with
  | some first, some last => ⟨first.line, first.column + 1, last.stop.1, last.stop.2⟩
  | _, _ => fallback

/-- The span from the first to the last token, or the start of the file when there is none. -/
def Node.span (n : Node) : Span := n.spanOr Span.fileStart

end GroovyLowering
