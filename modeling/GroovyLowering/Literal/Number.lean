import GroovyLowering.Literal.Binary

/-!
# Numbers of literals

A numeric literal has the type that its suffix asks for.  Without a suffix an integer takes the
narrowest type that holds it, and a decimal is kept exactly, as its text.

Flipping the sign never loses the value: where the least value of a type has no counterpart, the
result takes the next wider type.
-/

namespace GroovyLowering.Literal

/-- The value of a numeric literal. -/
inductive Number where
  /-- An integer of 32 bits. -/
  | integer (value : Int32)
  /-- An integer of 64 bits. -/
  | long (value : Int64)
  /-- An integer of any size. -/
  | bigInteger (value : Int)
  /-- A binary floating point value of 32 bits. -/
  | float (value : BinaryValue)
  /-- A binary floating point value of 64 bits. -/
  | double (value : BinaryValue)
  /-- A decimal of any precision, as its normalised text. -/
  | bigDecimal (text : String)
deriving DecidableEq, Repr

/-- What is wrong with a numeric literal, with its text. -/
inductive NumberError where
  /-- It is no number of the expected form. -/
  | malformed (text : String)
  /-- It does not fit the type its suffix asks for. -/
  | outOfRange (text : String)
deriving DecidableEq, Repr

/-- The wording of an error. -/
def NumberError.message : NumberError → String
  | .malformed text => "invalid numeric literal: " ++ text
  | .outOfRange text => "numeric literal out of range: " ++ text

namespace Number

/-- An integer of 32 bits, if the value fits. -/
def toInteger? (value : Int) : Option Number :=
  if Int32.minValue.toInt ≤ value ∧ value ≤ Int32.maxValue.toInt then
    some (.integer (Int32.ofInt value))
  else none

/-- An integer of 64 bits, if the value fits. -/
def toLong? (value : Int) : Option Number :=
  if Int64.minValue.toInt ≤ value ∧ value ≤ Int64.maxValue.toInt then
    some (.long (Int64.ofInt value))
  else none

/-- An integer of the narrowest type that holds it. -/
def narrowest (value : Int) : Number :=
  match toInteger? value with
  | some number => number
  | none =>
    match toLong? value with
    | some number => number
    | none => .bigInteger value

/-- The integer that a number of an integer type stands for. -/
def intValue? : Number → Option Int
  | .integer value => some value.toInt
  | .long value => some value.toInt
  | .bigInteger value => some value
  | .float _ | .double _ | .bigDecimal _ => none

/-- The text of a decimal with its sign flipped. -/
def negateText : List Char → List Char
  | '-' :: rest => rest
  | text => '-' :: text

/-- The number with its sign flipped.  The least integer of a type moves to the next wider one. -/
def negate : Number → Number
  | .integer value => if value = Int32.minValue then .long (-value.toInt64) else .integer (-value)
  | .long value => if value = Int64.minValue then .bigInteger (-value.toInt) else .long (-value)
  | .bigInteger value => .bigInteger (-value)
  | .float value => .float value.negate
  | .double value => .double value.negate
  | .bigDecimal text => .bigDecimal (String.ofList (negateText text.toList))

/-- The written form of a number. -/
def text : Number → String
  | .integer value => toString value.toInt
  | .long value => toString value.toInt
  | .bigInteger value => toString value
  | .float value => value.text binary32
  | .double value => value.text binary64
  | .bigDecimal text => text

end Number

end GroovyLowering.Literal
