import GroovyLowering.Literal.Escape

/-!
# String literals

A string literal has one of six styles, which its opening delimiter tells.  The style fixes the
closing delimiter, the table of escapes, and whether line ends are normalised.  `unquote` decodes a
whole literal and `quote` writes one.

An interpolated string arrives in segments: one that opens it, parts that end at the next value
and one that closes it.  Each is decoded on its own.  `Segment` has the rules.

Delimiters are cut off by their length in bytes.  A text that is not longer than its delimiters
has no content, and neither has a text that would be cut inside a character.
-/

namespace GroovyLowering.Literal

/-- How a string is delimited. -/
inductive StringStyle where
  /-- One single quote. -/
  | singleQuoted
  /-- One double quote. -/
  | doubleQuoted
  /-- Three single quotes. -/
  | tripleSingleQuoted
  /-- Three double quotes. -/
  | tripleDoubleQuoted
  /-- A slash. -/
  | slashy
  /-- A dollar and a slash. -/
  | dollarSlashy
deriving DecidableEq, Repr

namespace StringStyle

/-- The display name of a style. -/
def display : StringStyle → String
  | .singleQuoted => "SingleQuoted"
  | .doubleQuoted => "DoubleQuoted"
  | .tripleSingleQuoted => "TripleSingleQuoted"
  | .tripleDoubleQuoted => "TripleDoubleQuoted"
  | .slashy => "Slashy"
  | .dollarSlashy => "DollarSlashy"

/-- All styles. -/
def all : List StringStyle :=
  [.singleQuoted, .doubleQuoted, .tripleSingleQuoted, .tripleDoubleQuoted, .slashy, .dollarSlashy]

/-- The style that the front of a literal tells.  Three quotes are looked for before one. -/
def of? : List Char → Option StringStyle
  | '\'' :: '\'' :: '\'' :: _ => some .tripleSingleQuoted
  | '"' :: '"' :: '"' :: _ => some .tripleDoubleQuoted
  | '$' :: '/' :: _ => some .dollarSlashy
  | '\'' :: _ => some .singleQuoted
  | '"' :: _ => some .doubleQuoted
  | '/' :: _ => some .slashy
  | _ => none

/-- The table of escapes of a style. -/
def escapeMode : StringStyle → EscapeMode
  | .slashy => .slashy
  | .dollarSlashy => .dollarSlashy
  | _ => .standard

/-- The delimiter that opens a literal. -/
def opening : StringStyle → List Char
  | .singleQuoted => ['\'']
  | .doubleQuoted => ['"']
  | .tripleSingleQuoted => ['\'', '\'', '\'']
  | .tripleDoubleQuoted => ['"', '"', '"']
  | .slashy => ['/']
  | .dollarSlashy => ['$', '/']

/-- The delimiter that closes a literal. -/
def closing : StringStyle → List Char
  | .dollarSlashy => ['/', '$']
  | style => style.opening

/-- Whether a literal of this style may run over several lines, and so has its line ends
normalised. -/
def normalizesLineEnds : StringStyle → Bool
  | .singleQuoted | .doubleQuoted => false
  | _ => true

end StringStyle

/-- The table of escapes that the front of an interpolated string tells. -/
def EscapeMode.of : List Char → EscapeMode
  | '/' :: _ => .slashy
  | '$' :: '/' :: _ => .dollarSlashy
  | _ => .standard

/-! ## Content -/

/-- A text with a line feed for every carriage return and line feed. -/
def normalizeLineEnds : List Char → List Char
  | [] => []
  | '\r' :: '\n' :: rest => '\n' :: normalizeLineEnds rest
  | c :: rest => c :: normalizeLineEnds rest

/-- A text with its line ends normalised where that applies. -/
def normalizeLineEndsIf (applies : Bool) (cs : List Char) : List Char :=
  if applies then normalizeLineEnds cs else cs

/-- The length of a text in bytes. -/
def byteLength : List Char → Nat
  | [] => 0
  | c :: cs => c.utf8Size + byteLength cs

/-- A text without a number of bytes at its front, if they end between two characters. -/
def dropBytes? : Nat → List Char → Option (List Char)
  | 0, cs => some cs
  | _ + 1, [] => none
  | n + 1, c :: cs => if c.utf8Size ≤ n + 1 then dropBytes? (n + 1 - c.utf8Size) cs else none

/-- A text without a number of bytes at its front and at its end.  It is empty if they take all of
it or cut a character. -/
def strip (opening closing : Nat) (cs : List Char) : List Char :=
  if byteLength cs ≤ opening + closing then []
  else
    (((dropBytes? opening cs).bind fun rest =>
      dropBytes? closing rest.reverse).map List.reverse).getD []

/-- The value of a string literal, if the text starts with a delimiter. -/
def unquote? (cs : List Char) : Option (List Char) :=
  (StringStyle.of? cs).map fun style =>
    decode style.escapeMode <|
      strip (byteLength style.opening) (byteLength style.closing) <|
        normalizeLineEndsIf style.normalizesLineEnds cs

/-! ## Segments of interpolated strings -/

namespace Segment

/-- Whether a text starts with three double quotes. -/
def opensTriple : List Char → Bool
  | '"' :: '"' :: '"' :: _ => true
  | _ => false

/-- Whether a text starts with a dollar and a slash. -/
def opensDollar : List Char → Bool
  | '$' :: '/' :: _ => true
  | _ => false

/-- Decode a segment, given the bytes of its delimiters. -/
def decodeWith (mode : EscapeMode) (opening closing : Nat) (normalizes : Bool) (cs : List Char) :
    List Char :=
  decode mode (strip opening closing (normalizeLineEndsIf normalizes cs))

/-- The value of the segment that opens an interpolated string and ends with the dollar of the
first value. -/
def opening (mode : EscapeMode) (cs : List Char) : List Char :=
  if opensTriple cs then decodeWith mode 3 1 true cs
  else if opensDollar cs then decodeWith mode 2 1 true cs
  else decodeWith mode 1 1 (mode = .slashy) cs

/-- The value of a part, which ends with the dollar of the next value. -/
def part (mode : EscapeMode) (cs : List Char) : List Char := decodeWith mode 0 1 true cs

/-- The value of the segment that closes an interpolated string. -/
def closing (mode : EscapeMode) (cs : List Char) : List Char :=
  if opensTriple cs.reverse then decodeWith mode 0 3 true cs
  else if opensDollar cs.reverse ∧ mode = .dollarSlashy then decodeWith mode 0 2 true cs
  else decodeWith mode 0 1 (mode = .slashy) cs

end Segment

/-! ## Writing literals -/

/-- The digit of a value below 16, with capital letters. -/
def hexDigit (n : Nat) : Char :=
  if n < 10 then Char.ofNat ('0'.toNat + n) else Char.ofNat ('A'.toNat + (n - 10))

/-- One unit of 16 bits as `\uXXXX`. -/
def unicodeUnit (n : Nat) : List Char :=
  ['\\', 'u', hexDigit (n / 4096 % 16), hexDigit (n / 256 % 16), hexDigit (n / 16 % 16),
    hexDigit (n % 16)]

/-- The units of 16 bits that a character takes: one, or two surrogates. -/
def units16 (c : Char) : List Nat :=
  let n := c.toNat
  if n < 0x10000 then [n]
  else [0xD800 + (n - 0x10000) / 0x400, 0xDC00 + (n - 0x10000) % 0x400]

/-- A character as its units in `\uXXXX` form. -/
def unicodeEscape (c : Char) : List Char := (units16 c).flatMap unicodeUnit

/-- A control character: one of the first 32 codes, or one from 127 to 159. -/
def isControl (c : Char) : Bool :=
  let n := c.toNat
  n < 0x20 || (0x7F ≤ n && n ≤ 0x9F)

/-- A character as the standard table writes it.  Between three quotes a line feed stays. -/
def quoteStandard (triple : Bool) (c : Char) : List Char :=
  if c = '\\' then ['\\', '\\']
  else if c = '\'' then ['\\', '\'']
  else if c = '"' then ['\\', '"']
  else if c = '$' then ['\\', '$']
  else if c = '\n' then (if triple then ['\n'] else ['\\', 'n'])
  else if c = '\r' then ['\\', 'r']
  else if c = '\t' then ['\\', 't']
  else if c = '\x08' then ['\\', 'b']
  else if c = '\x0c' then ['\\', 'f']
  else if isControl c then unicodeEscape c
  else [c]

/-- A character as the slashy table writes it. -/
def quoteSlashy (c : Char) : List Char :=
  if c = '/' then ['\\', '/']
  else if c = '\\' ∨ c = '\r' ∨ c = '$' then unicodeEscape c
  else [c]

/-- A character as the dollar slashy table writes it. -/
def quoteDollarSlashy (c : Char) : List Char :=
  if c = '$' then ['$', '$']
  else if c = '/' then ['$', '/']
  else if c = '\\' ∨ c = '\r' then unicodeEscape c
  else [c]

/-- A character inside a literal of a style. -/
def StringStyle.quoteChar : StringStyle → Char → List Char
  | .singleQuoted | .doubleQuoted => quoteStandard false
  | .tripleSingleQuoted | .tripleDoubleQuoted => quoteStandard true
  | .slashy => quoteSlashy
  | .dollarSlashy => quoteDollarSlashy

/-- A value inside a literal of a style, without the delimiters. -/
def StringStyle.body (style : StringStyle) (value : List Char) : List Char :=
  value.flatMap style.quoteChar

/-- A value as a literal of a style. -/
def quote (style : StringStyle) (value : List Char) : List Char :=
  style.opening ++ style.body value ++ style.closing

end GroovyLowering.Literal
