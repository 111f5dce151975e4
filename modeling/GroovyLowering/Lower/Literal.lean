import GroovyLowering.Literal.Decimal
import GroovyLowering.Literal.Quoted
import GroovyLowering.Lower.Scope

/-!
# Lowering literals

The category of a literal token tells how its text is read.

A number in front of which a sign is folded is read once more with its sign, since the least
integer of a type has no positive counterpart.  `signFlipped?` does this; it only applies to a node
that is a numeric literal.
-/

namespace GroovyLowering

/-- Read a numeric literal by the category of its token; other categories have no number. -/
def TokenKind.readNumber? (kind : TokenKind) (text : String) :
    Option (Except Literal.NumberError Literal.Number) :=
  match kind with
  | .integerLiteral => some (Literal.readInteger text)
  | .floatingPointLiteral => some (Literal.readDecimal text)
  | _ => none

/-- Whether a text has a minus sign in front. -/
def startsWithMinus (text : String) : Bool := (Literal.splitMinus text.toList).1

/-- A text with the minus sign in front taken away, or put there. -/
def flipMinus (text : String) : String := String.ofList (Literal.Number.negateText text.toList)

namespace Scope

/-- The number that a node was read as. -/
def number (s : Scope) (n : Node) (read : Except Literal.NumberError Literal.Number) :
    Lowered Literal.Number :=
  match read with
  | .ok value => .ok value
  | .error error => s.refuse n (.badNumber error)

/-- The value of a string literal token of a node. -/
def stringValue (s : Scope) (n : Node) (t : Token) : Lowered String :=
  match Literal.unquote? t.text.toList with
  | some value => .ok (String.ofList value)
  | none => s.refuse n .malformedString

/-- The constant of a literal token of a node. -/
def literalValue (s : Scope) (n : Node) (t : Token) : Lowered Constant :=
  match t.kind.readNumber? t.text with
  | some read => do return .number (← s.number n read) !startsWithMinus t.text
  | none =>
    match t.kind with
    | .stringLiteral => do return .stringLiteral (← s.stringValue n t)
    | .booleanLiteral => .ok (.bool (t.text == "true"))
    | .nullLiteral => .ok .null
    | _ => s.refuse n .unsupportedLiteral

/-- Lower a literal. -/
def literal (s : Scope) (n : Node) : Lowered Expr := do
  let value ← s.literalValue n (← s.token n .literal)
  return .constant value n.span

/-- The value of a numeric literal with its sign flipped, or nothing for any other node. -/
def signFlipped? (s : Scope) (n : Node) : Lowered (Option Literal.Number) :=
  if n.kind = .literal then
    match n.token? .literal with
    | some t =>
      match t.kind.readNumber? (flipMinus t.text) with
      | some read => do return some (← s.number n read)
      | none => .ok none
    | none => .ok none
  else .ok none

end Scope

end GroovyLowering
