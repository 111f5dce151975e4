/-!
# Digits

The value of a digit in a radix, and the value of a run of digits.  A radix is at most 16, so the
digits are `0` to `9` and the letters `a` to `f` of either case.

The digits of a number are written by `Nat.toDigits`, and `decimalLength` counts them.
-/

namespace GroovyLowering.Literal

/-- The value of a hexadecimal digit. -/
def hexValue? (c : Char) : Option Nat :=
  if '0' ≤ c ∧ c ≤ '9' then some (c.toNat - '0'.toNat)
  else if 'a' ≤ c ∧ c ≤ 'f' then some (c.toNat - 'a'.toNat + 10)
  else if 'A' ≤ c ∧ c ≤ 'F' then some (c.toNat - 'A'.toNat + 10)
  else none

/-- The value of a digit, if the radix has it. -/
def digitValue? (radix : Nat) (c : Char) : Option Nat := (hexValue? c).filter (· < radix)

/-- Whether a radix has a character as a digit. -/
def isDigitOf (radix : Nat) (c : Char) : Bool := (digitValue? radix c).isSome

/-- The value of a run of digits, the most significant one first. -/
def digitsValue (radix : Nat) (digits : List Char) : Nat :=
  digits.foldl (fun value c => value * radix + (digitValue? radix c).getD 0) 0

/-- The number of decimal digits of a number; zero has one. -/
def decimalLength (n : Nat) : Nat := (Nat.toDigits 10 n).length

/-- A text without the underscores that group its digits. -/
def withoutUnderscores (cs : List Char) : List Char := cs.filter (· != '_')

end GroovyLowering.Literal
