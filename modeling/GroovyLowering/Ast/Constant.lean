import GroovyLowering.Literal.Number

/-!
# Constants

A constant is a value together with what kind of literal it came from.  A sign in front of a
constant is folded by that kind, and a call on a constant depends on it.
-/

namespace GroovyLowering

open Literal (Number)

/-- The value of a constant. -/
inductive ConstantValue where
  /-- No value. -/
  | null
  /-- A truth value. -/
  | bool (value : Bool)
  /-- A number. -/
  | number (value : Number)
  /-- A text. -/
  | string (value : String)
deriving DecidableEq, Repr

/-- The kind of literal a constant came from. -/
inductive LiteralTag where
  /-- A numeric literal. -/
  | numeric
  /-- A string literal. -/
  | string
  /-- Neither. -/
  | none
deriving DecidableEq, Repr

/-- The display name of a kind of literal. -/
def LiteralTag.display : LiteralTag → String
  | .numeric => "Numeric"
  | .string => "String"
  | .none => "None"

/-- A constant. -/
structure Constant where
  /-- Its value. -/
  value : ConstantValue
  /-- The kind of literal it came from. -/
  tag : LiteralTag := .none
  /-- Whether it keeps its primitive type.  Negated numbers do not. -/
  keepsPrimitive : Bool := false
deriving DecidableEq, Repr

namespace Constant

/-- The constant `null`. -/
def null : Constant := { value := .null }

/-- A name or another text that is no literal. -/
def string (text : String) : Constant := { value := .string text }

/-- The value of a string literal. -/
def stringLiteral (text : String) : Constant :=
  { value := .string text, tag := .string, keepsPrimitive := true }

/-- A truth value. -/
def bool (value : Bool) : Constant := { value := .bool value, keepsPrimitive := true }

/-- A number. -/
def number (value : Number) (keepsPrimitive : Bool) : Constant :=
  { value := .number value, tag := .numeric, keepsPrimitive }

/-- The value of a constant without quotes. -/
def text (c : Constant) : String :=
  match c.value with
  | .null => "null"
  | .bool value => if value then "true" else "false"
  | .number value => value.text
  | .string value => value

end Constant

end GroovyLowering
