import GroovyLowering.Literal.Integer

/-!
# Decimal literals

A decimal literal is a decimal text and a suffix letter.  The suffix `f` asks for a binary value
of 32 bits and `d` for one of 64 bits; with `g` or without a suffix the decimal is kept exactly.
Underscores may stand anywhere and mean nothing.

A decimal text has an optional sign, digits with an optional point and an optional exponent.
There is at least one digit before or behind the point.  The words `inf`, `infinity` and `nan`, in
any case, are decimal texts as well.

An exact decimal is kept as its text in a normal form: without plus signs, and with a capital `E`
in front of the exponent.
-/

namespace GroovyLowering.Literal

/-- What a decimal text denotes. -/
inductive Decimal where
  /-- No number. -/
  | nan
  /-- Larger than every number, or smaller. -/
  | infinite (negative : Bool)
  /-- The coefficient times a power of ten. -/
  | finite (negative : Bool) (coefficient : Nat) (exponent : Int)
deriving DecidableEq, Repr

namespace Decimal

/-- Split a sign off the front. -/
def splitSign : List Char → Bool × List Char
  | '-' :: rest => (true, rest)
  | '+' :: rest => (false, rest)
  | cs => (false, cs)

/-- The word that stands for a value that is no finite number. -/
def ofWord? (negative : Bool) (cs : List Char) : Option Decimal :=
  let word := String.ofList (cs.map Char.toLower)
  if word = "inf" ∨ word = "infinity" then some (.infinite negative)
  else if word = "nan" then some .nan
  else none

/-- The digits at the front of a text, and the rest. -/
def spanDigits (cs : List Char) : List Char × List Char := cs.span Char.isDigit

/-- Split a point and the digits behind it off the front. -/
def splitFraction : List Char → List Char × List Char
  | '.' :: rest => spanDigits rest
  | cs => ([], cs)

/-- The exponent that the rest of a text denotes; no rest denotes zero. -/
def exponent? : List Char → Option Int
  | [] => some 0
  | c :: rest =>
    if c = 'e' ∨ c = 'E' then
      let (negative, digits) := splitSign rest
      if digits.isEmpty || !digits.all Char.isDigit then none
      else
        let power : Int := digitsValue 10 digits
        some (if negative then -power else power)
    else none

/-- The finite number that digits, a point and an exponent denote. -/
def ofDigits? (negative : Bool) (cs : List Char) : Option Decimal :=
  let (whole, rest) := spanDigits cs
  let (fraction, rest) := splitFraction rest
  if whole.isEmpty && fraction.isEmpty then none
  else
    (exponent? rest).map fun power =>
      .finite negative (digitsValue 10 (whole ++ fraction)) (power - fraction.length)

/-- Read a decimal text. -/
def read? (cs : List Char) : Option Decimal :=
  let (negative, body) := splitSign cs
  (ofWord? negative body).or (ofDigits? negative body)

/-- The value of a binary format that is nearest to a decimal. -/
def toBinary (format : BinaryFormat) : Decimal → BinaryValue
  | .nan => .nan
  | .infinite negative => .infinite negative
  | .finite negative coefficient exponent =>
    .ofDecimal format negative coefficient exponent

/-! ## The normal form of an exact decimal -/

/-- A text without a plus sign in front. -/
def dropPlus : List Char → List Char
  | '+' :: rest => rest
  | cs => cs

/-- A text with a capital `E` for its first `e`, and no plus sign behind it. -/
def normalizeExponent : List Char → List Char
  | [] => []
  | c :: rest =>
    if c = 'e' ∨ c = 'E' then 'E' :: dropPlus rest else c :: normalizeExponent rest

/-- The normal form of a decimal text. -/
def normalize (cs : List Char) : List Char := normalizeExponent (dropPlus cs)

end Decimal

/-- The type that a suffix letter of a decimal literal asks for. -/
inductive DecimalSuffix where
  /-- A binary value of 32 bits. -/
  | float
  /-- A binary value of 64 bits. -/
  | double
  /-- An exact decimal. -/
  | exact
deriving DecidableEq, Repr

/-- The type a suffix letter asks for. -/
def DecimalSuffix.ofChar? : Char → Option DecimalSuffix
  | 'f' | 'F' => some .float
  | 'd' | 'D' => some .double
  | 'g' | 'G' => some .exact
  | _ => none

/-- Read a decimal literal. -/
def readDecimal (text : String) : Except NumberError Number :=
  let (body, suffix) := splitSuffix DecimalSuffix.ofChar? (withoutUnderscores text.toList)
  match Decimal.read? body with
  | none => .error (.malformed text)
  | some decimal =>
    match suffix with
    | some .float => .ok (.float (decimal.toBinary binary32))
    | some .double => .ok (.double (decimal.toBinary binary64))
    | some .exact | none => .ok (.bigDecimal (String.ofList (Decimal.normalize body)))

end GroovyLowering.Literal
