import GroovyLowering.Lower.Path

/-!
# Lowering interpolated strings

An interpolated string has one constant more than it has parts between its values.  Its text is the
constants and the values in turn, with a dollar in front of each value.

A value is a dotted name, an expression or a closure; empty braces stand for `null`.  A closure
with an arrow is the value itself, and one without is called in place.
-/

namespace GroovyLowering

/-- The text of an interpolated string: its constants, each with the value behind it. -/
def verbatimText : List Expr → List Expr → String
  | [], _ => ""
  | string :: strings, values =>
    let own := ((string.asConstant?.bind fun c =>
      match c.value with
      | .string text => some text
      | _ => none)).getD ""
    match values with
    | [] => own ++ verbatimText strings []
    | value :: values => own ++ "$" ++ value.text ++ verbatimText strings values

/-- A property whose name is a token of a dotted name, with the dot in front of it taken away. -/
def Expr.dotted (object : Expr) (part : Token) : Expr :=
  let name :=
    match part.text.toList with
    | '.' :: rest => String.ofList rest
    | _ => part.text
  { shape := .property { object, member := .symbol name part.span }, span := part.span }

namespace Scope

/-- Lower a dotted name inside a string. -/
def gstringPath (s : Scope) (n : Node) : Lowered Expr := do
  let name ← s.token n .identifier
  return (n.tokens .pathPart).foldl Expr.dotted (.named name.text name.span)

/-- Lower a value of an interpolated string. -/
def gstringValue (s : Scope) (n : Node) : Lowered Expr :=
  match n.node? .path with
  | some path => do return (← s.gstringPath path).withSpan n.span
  | none =>
    match n.node? .expression with
    | some child => do return (← s.expr child).withSpan n.span
    | none =>
      match n.node? .closure with
      | some child => do
        let closure ← s.closure child
        if child.has .arrow then return closure.withSpan n.span
        else
          return { shape := .methodCall
                    { object := closure, method := .symbol callMethod n.span,
                      arguments := .positional [] n.span }
                   span := n.span }
      | none => .ok (.null n.span)

/-- The constant of a segment of an interpolated string. -/
def segment (decode : List Char → List Char) (t : Token) : Expr :=
  .symbol (String.ofList (decode t.text.toList)) t.span

/-- Lower an interpolated string. -/
def gstring (s : Scope) (n : Node) : Lowered Expr := do
  let first ← s.token n .opening
  let last ← s.token n .closing
  let mode := Literal.EscapeMode.of first.text.toList
  let strings := segment (Literal.Segment.opening mode) first ::
    ((n.tokens .part).map (segment (Literal.Segment.part mode)) ++
      [segment (Literal.Segment.closing mode) last])
  let values ← (n.nodes .value).mapM s.gstringValue
  return { shape := .gstring (verbatimText strings values) strings values, span := n.span }

end Scope

end GroovyLowering
