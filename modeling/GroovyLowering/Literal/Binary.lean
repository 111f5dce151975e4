import GroovyLowering.Literal.Digits

/-!
# Binary floating point values

A finite value is a sign, a mantissa and a power of two.  A format says how many binary digits the
mantissa may have and how far the exponent reaches; a value of less than full precision has the
least exponent.

`ofDecimal` rounds a decimal number to the nearest value of a format, and a tie to the even
mantissa.  All arithmetic is on natural numbers, so the result is the exact one.

`shortest` finds the decimal number with the fewest digits that reads back as a given value.  The
numbers that read back are an interval around the value, with its ends if the mantissa is even.
On the grid of numbers with a given last place only the two neighbours of the value need a look:
if any number of the grid is in the interval, one of them is.  The search starts at the value's
first digit and refines the grid until there is a hit.  Of two hits the nearer one is taken, and of
two hits that are equally near the larger one.
-/

namespace GroovyLowering.Literal

/-- How many values a format has. -/
structure BinaryFormat where
  /-- The binary digits of a mantissa. -/
  precision : Nat
  /-- The least exponent. -/
  minExponent : Int
  /-- The largest exponent. -/
  maxExponent : Int

/-- The format of 32 bits. -/
def binary32 : BinaryFormat := ⟨24, -149, 104⟩

/-- The format of 64 bits. -/
def binary64 : BinaryFormat := ⟨53, -1074, 971⟩

/-- A value of a binary format. -/
inductive BinaryValue where
  /-- No number. -/
  | nan
  /-- Larger than every number, or smaller. -/
  | infinite (negative : Bool)
  /-- The mantissa times a power of two.  Zero has a sign as well. -/
  | finite (negative : Bool) (mantissa : Nat) (exponent : Int)
deriving DecidableEq, Repr

namespace BinaryValue

/-- The value with its sign flipped. -/
def negate : BinaryValue → BinaryValue
  | .nan => .nan
  | .infinite negative => .infinite !negative
  | .finite negative mantissa exponent => .finite (!negative) mantissa exponent

/-! ## Rounding -/

/-- The number `n * base ^ e` as a numerator and a denominator. -/
def scaled (n base : Nat) (e : Int) : Nat × Nat :=
  if 0 ≤ e then (n * Nat.pow base e.toNat, 1) else (n, Nat.pow base (-e).toNat)

/-- The nearest natural number to a quotient, and the even one of two that are equally near. -/
def roundHalfEven (num den : Nat) : Nat :=
  let floor := num / den
  let rest := 2 * (num % den)
  if rest < den ∨ (rest = den ∧ floor % 2 = 0) then floor else floor + 1

/-- The largest `k` such that `2 ^ k` is at most a positive quotient. -/
def floorLog2 (num den : Nat) : Int :=
  let k : Int := (num.log2 : Int) - den.log2
  let power := scaled 1 2 k
  if power.1 * den ≤ num * power.2 then k else k - 1

/-- The value of a format that is nearest to a quotient. -/
def ofQuotient (format : BinaryFormat) (negative : Bool) (num den : Nat) : BinaryValue :=
  if num = 0 then .finite negative 0 format.minExponent
  else
    let exponent := max (floorLog2 num den - (format.precision - 1)) format.minExponent
    let unit := scaled 1 2 exponent
    let mantissa := roundHalfEven (num * unit.2) (den * unit.1)
    let full := mantissa = Nat.pow 2 format.precision
    let exponent := if full then exponent + 1 else exponent
    if format.maxExponent < exponent then .infinite negative
    else .finite negative (if full then mantissa / 2 else mantissa) exponent

/-- The value of a format that is nearest to `coefficient * 10 ^ exponent`.  A number whose size
alone puts it outside the format is not multiplied out. -/
def ofDecimal (format : BinaryFormat) (negative : Bool) (coefficient : Nat) (exponent : Int) :
    BinaryValue :=
  let magnitude := exponent + decimalLength coefficient
  if coefficient = 0 ∨ magnitude < format.minExponent then
    .finite negative 0 format.minExponent
  else if format.maxExponent + format.precision < magnitude then .infinite negative
  else
    let ten := scaled coefficient 10 exponent
    ofQuotient format negative ten.1 ten.2

/-! ## The shortest decimal number that reads back -/

/-- The number nearest to a value among the multiples of `10 ^ place` that read back as it, as a
multiple. -/
def onGrid? (format : BinaryFormat) (mantissa : Nat) (exponent place : Int) : Option Nat :=
  let quarter := scaled 1 2 (exponent - 2)
  let grid := scaled 1 10 place
  -- all four are multiples of the same unit, so they can be compared
  let step := grid.1 * quarter.2
  let unit := quarter.1 * grid.2
  let value := 4 * mantissa * unit
  let narrow := mantissa = Nat.pow 2 (format.precision - 1) ∧ format.minExponent < exponent
  let low := (4 * mantissa - if narrow then 1 else 2) * unit
  let high := (4 * mantissa + 2) * unit
  let closed := mantissa % 2 = 0
  let below := value / step
  let fitsBelow := if closed then low ≤ below * step else low < below * step
  let fitsAbove := if closed then (below + 1) * step ≤ high else (below + 1) * step < high
  match decide fitsBelow, decide fitsAbove with
  | true, true =>
    some (if (below + 1) * step - value ≤ value - below * step then below + 1 else below)
  | true, false => some below
  | false, true => some (below + 1)
  | false, false => none

/-- The place of the first decimal digit of a positive value. -/
def firstPlace (mantissa : Nat) (exponent : Int) : Int :=
  let value := scaled mantissa 2 exponent
  if value.2 ≤ value.1 then decimalLength (value.1 / value.2) - 1
  else -(decimalLength ((value.2 - 1) / value.1))

/-- The decimal number with the fewest digits that reads back as a positive value, as a multiple
and a place.  Seventeen digits are enough for every format of at most 53 binary digits. -/
def shortest (format : BinaryFormat) (mantissa : Nat) (exponent : Int) : Nat × Int :=
  let first := firstPlace mantissa exponent
  ((List.range 17).findSome? fun (i : Nat) =>
    (onGrid? format mantissa exponent (first - i)).map fun n => (n, first - i)).getD (0, 0)

/-! ## The written form -/

/-- A decimal number, given by its digits and how many of them are in front of the point. -/
def positional (digits : List Char) (point : Int) : List Char :=
  if point ≤ 0 then '0' :: '.' :: (List.replicate (-point).toNat '0' ++ digits)
  else if digits.length ≤ point.toNat then
    digits ++ List.replicate (point.toNat - digits.length) '0' ++ ['.', '0']
  else digits.take point.toNat ++ '.' :: digits.drop point.toNat

/-- A decimal number with one digit in front of the point and the power of ten behind an `e`. -/
def scientific (digits : List Char) (point : Int) : List Char :=
  let power := (toString (point - 1)).toList
  match digits with
  | [] => []
  | [d] => d :: 'e' :: power
  | d :: ds => d :: '.' :: (ds ++ 'e' :: power)

/-- The written form of a finite value without its sign.  Values from `0.0001` up to below `1e16`
and zero are written with a point, all others with a power of ten. -/
def magnitudeText (format : BinaryFormat) (mantissa : Nat) (exponent : Int) : List Char :=
  if mantissa = 0 then ['0', '.', '0']
  else
    let number := shortest format mantissa exponent
    let written := Nat.toDigits 10 number.1
    let point := written.length + number.2
    let digits := (written.reverse.dropWhile (· == '0')).reverse
    if -4 < point ∧ point ≤ 16 then positional digits point else scientific digits point

/-- The written form of a value.  A minus sign stands in front of negative values, negative zero
included. -/
def text (format : BinaryFormat) : BinaryValue → String
  | .nan => "NaN"
  | .infinite negative => if negative then "-inf" else "inf"
  | .finite negative mantissa exponent =>
    let magnitude := magnitudeText format mantissa exponent
    String.ofList (if negative then '-' :: magnitude else magnitude)

end BinaryValue

end GroovyLowering.Literal
