import GroovyLowering.Literal.Number

/-!
# Integer literals

An integer literal is a sign, digits in one of four radixes and a suffix letter.

* Underscores may stand anywhere and mean nothing.
* `0x` starts a hexadecimal number, `0b` a binary one and `0` in front of another digit an octal
  one; every other literal is decimal.
* The suffix letters ask for a type: `i` for 32 bits, `l` for 64 bits and `g` for any size.
-/

namespace GroovyLowering.Literal

/-- The integer type that a suffix letter asks for. -/
inductive IntegerSuffix where
  /-- An integer of 32 bits. -/
  | integer
  /-- An integer of 64 bits. -/
  | long
  /-- An integer of any size. -/
  | big
deriving DecidableEq, Repr

/-- The type a suffix letter asks for. -/
def IntegerSuffix.ofChar? : Char → Option IntegerSuffix
  | 'i' | 'I' => some .integer
  | 'l' | 'L' => some .long
  | 'g' | 'G' => some .big
  | _ => none

/-- Split a minus sign off the front. -/
def splitMinus : List Char → Bool × List Char
  | '-' :: rest => (true, rest)
  | cs => (false, cs)

/-- Split a suffix letter off the end. -/
def splitSuffix {α : Type} (ofChar? : Char → Option α) (cs : List Char) : List Char × Option α :=
  match cs.getLast? with
  | none => (cs, none)
  | some c =>
    match ofChar? c with
    | some suffix => (cs.dropLast, some suffix)
    | none => (cs, none)

/-- Split the radix mark off the front. -/
def splitRadix : List Char → Nat × List Char
  | '0' :: 'x' :: digits | '0' :: 'X' :: digits => (16, digits)
  | '0' :: 'b' :: digits | '0' :: 'B' :: digits => (2, digits)
  | '0' :: d :: digits => (8, d :: digits)
  | digits => (10, digits)

/-- The magnitude that digits with a radix mark denote. -/
def magnitude? (cs : List Char) : Option Nat :=
  let (radix, digits) := splitRadix cs
  if digits.isEmpty || !digits.all (isDigitOf radix) then none
  else some (digitsValue radix digits)

/-- An integer of the type that the suffix asks for, if it fits. -/
def Number.ofSuffix? (value : Int) : Option IntegerSuffix → Option Number
  | some .integer => toInteger? value
  | some .long => toLong? value
  | some .big => some (.bigInteger value)
  | none => some (narrowest value)

/-- Read an integer literal. -/
def readInteger (text : String) : Except NumberError Number :=
  let (negative, body) := splitMinus (withoutUnderscores text.toList)
  let (body, suffix) := splitSuffix IntegerSuffix.ofChar? body
  match magnitude? body with
  | none => .error (.malformed text)
  | some magnitude =>
    match Number.ofSuffix? (if negative then -magnitude else magnitude) suffix with
    | none => .error (.outOfRange text)
    | some number => .ok number

end GroovyLowering.Literal
