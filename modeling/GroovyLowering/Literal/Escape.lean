import GroovyLowering.Literal.Digits

/-!
# Escapes in string literals

A string literal is decoded in one pass from left to right, so what an escape stands for is never
read as part of another one.  There are three tables of escapes.

* All of them know `\uXXXX` and a backslash at a line end, which joins the two lines.
* The standard table has letters and signs behind a backslash, and one to three octal digits.
* The slashy table has `\/` only.
* The dollar slashy table has `$$` and `$/`, and no others behind a backslash.

A backslash or a dollar that starts no escape of its table stands for itself.

`escape?` reads one escape at the front of a text, and `decodeFrom` walks the text and skips what
an escape took.
-/

namespace GroovyLowering.Literal

/-- Which table of escapes applies. -/
inductive EscapeMode where
  /-- Letters, signs and octal digits behind a backslash. -/
  | standard
  /-- A slash behind a backslash. -/
  | slashy
  /-- A dollar or a slash behind a dollar. -/
  | dollarSlashy
deriving DecidableEq, Repr

/-- The display name of a table. -/
def EscapeMode.display : EscapeMode → String
  | .standard => "Standard"
  | .slashy => "Slashy"
  | .dollarSlashy => "DollarSlashy"

/-- All tables. -/
def EscapeMode.all : List EscapeMode := [.standard, .slashy, .dollarSlashy]

/-- An escape at the front of a text. -/
structure Escape where
  /-- What it stands for. -/
  value : List Char
  /-- How many characters it takes, without the one it starts with. -/
  skip : Nat
deriving DecidableEq, Repr

/-! ## One escape -/

/-- The character that a code in the Unicode range stands for.  Surrogates stand for none. -/
def charOfCode? (code : Nat) : Option Char :=
  if h : code.isValidChar then some (Char.ofNatAux code h) else none

/-- The character that four hexadecimal digits stand for. -/
def unicodeChar? (a b c d : Char) : Option Char :=
  if [a, b, c, d].all (isDigitOf 16) then charOfCode? (digitsValue 16 [a, b, c, d]) else none

/-- Four hexadecimal digits behind `\u`. -/
def unicodeEscape? : List Char → Option Escape
  | 'u' :: a :: b :: c :: d :: _ => (unicodeChar? a b c d).map fun ch => ⟨[ch], 5⟩
  | _ => none

/-- A line end behind a backslash. -/
def lineJoin? : List Char → Option Escape
  | '\n' :: _ => some ⟨[], 1⟩
  | '\r' :: '\n' :: _ => some ⟨[], 2⟩
  | _ => none

/-- A letter or sign behind a backslash. -/
def pairEscape? : List Char → Option Escape
  | 'b' :: _ => some ⟨['\x08'], 1⟩
  | 't' :: _ => some ⟨['\t'], 1⟩
  | 'n' :: _ => some ⟨['\n'], 1⟩
  | 'f' :: _ => some ⟨['\x0c'], 1⟩
  | 'r' :: _ => some ⟨['\r'], 1⟩
  | '"' :: _ => some ⟨['"'], 1⟩
  | '\'' :: _ => some ⟨['\''], 1⟩
  | '\\' :: _ => some ⟨['\\'], 1⟩
  | '$' :: _ => some ⟨['$'], 1⟩
  | _ => none

/-- Octal digits behind a backslash: up to three if the first is at most 3, else up to two. -/
def octalEscape? : List Char → Option Escape
  | [] => none
  | first :: rest =>
    if isDigitOf 8 first then
      let more := (rest.take (if first ≤ '3' then 2 else 1)).takeWhile (isDigitOf 8)
      some ⟨[Char.ofNat (digitsValue 8 (first :: more))], more.length + 1⟩
    else none

/-- A slash behind a backslash. -/
def slashEscape? : List Char → Option Escape
  | '/' :: _ => some ⟨['/'], 1⟩
  | _ => none

/-- A dollar or a slash behind a dollar. -/
def dollarEscape? : List Char → Option Escape
  | '$' :: _ => some ⟨['$'], 1⟩
  | '/' :: _ => some ⟨['/'], 1⟩
  | _ => none

/-- An escape that a backslash starts and that only one of the tables knows. -/
def EscapeMode.ownEscape? : EscapeMode → List Char → Option Escape
  | .standard, rest => (pairEscape? rest).or (octalEscape? rest)
  | .slashy, rest => slashEscape? rest
  | .dollarSlashy, _ => none

/-- The escape that a character starts, given the text behind the character. -/
def EscapeMode.escape? (mode : EscapeMode) (c : Char) (rest : List Char) : Option Escape :=
  if c = '\\' then
    (lineJoin? rest).or <| (unicodeEscape? rest).or <| mode.ownEscape? rest
  else if c = '$' ∧ mode = .dollarSlashy then dollarEscape? rest
  else none

/-! ## A whole text -/

/-- Decode a text behind its first characters, which an escape took. -/
def decodeFrom (mode : EscapeMode) : Nat → List Char → List Char
  | _, [] => []
  | skip + 1, _ :: rest => decodeFrom mode skip rest
  | 0, c :: rest =>
    match mode.escape? c rest with
    | some escape => escape.value ++ decodeFrom mode escape.skip rest
    | none => c :: decodeFrom mode 0 rest

/-- Decode a text. -/
def decode (mode : EscapeMode) (cs : List Char) : List Char := decodeFrom mode 0 cs

theorem decodeFrom_eq_decode_drop (mode : EscapeMode) (skip : Nat) (cs : List Char) :
    decodeFrom mode skip cs = decode mode (cs.drop skip) := by
  induction cs generalizing skip with
  | nil => cases skip <;> rfl
  | cons c rest ih =>
    cases skip with
    | zero => rfl
    | succ skip => exact ih skip

/-- An escape at the front is replaced by what it stands for. -/
theorem decode_escape {mode : EscapeMode} {c : Char} {rest : List Char} {escape : Escape}
    (h : mode.escape? c rest = some escape) :
    decode mode (c :: rest) = escape.value ++ decode mode (rest.drop escape.skip) := by
  rw [← decodeFrom_eq_decode_drop, decode, decodeFrom, h]

/-- A character that starts no escape stands for itself. -/
theorem decode_plain {mode : EscapeMode} {c : Char} {rest : List Char}
    (h : mode.escape? c rest = none) : decode mode (c :: rest) = c :: decode mode rest := by
  rw [decode, decodeFrom, h]
  rfl

end GroovyLowering.Literal
