/-!
# Operators

The binary operators of the language, subscripts included, and the two steps that add or take one.
Each has one written form, by which a token is read (`ofText?`) and an expression is written
(`text`).
-/

namespace GroovyLowering

/-! ## Binary operators -/

/-- A binary operator. -/
inductive BinaryOp where
  | plus
  | minus
  | multiply
  | divide
  /-- Remainder. -/
  | mod
  | power
  | leftShift
  | rightShift
  | rightShiftUnsigned
  | less
  | greater
  | lessEq
  | greaterEq
  | isIn
  | instanceOf
  | equal
  | notEqual
  | identical
  | notIdentical
  | compare
  | findRegex
  | matchRegex
  | bitAnd
  | bitXor
  | bitOr
  | and
  | or
  /-- A subscript. -/
  | index
  /-- A subscript that gives null on null. -/
  | safeIndex
  | assign
  | plusAssign
  | minusAssign
  | multiplyAssign
  | divideAssign
  | modAssign
  | powerAssign
  | leftShiftAssign
  | rightShiftAssign
  | rightShiftUnsignedAssign
  | bitAndAssign
  | bitXorAssign
  | bitOrAssign
  /-- Assignment if there is no value yet. -/
  | elvisAssign
deriving DecidableEq, Repr

namespace BinaryOp

/-- The written form. -/
def text : BinaryOp → String
  | .plus => "+"
  | .minus => "-"
  | .multiply => "*"
  | .divide => "/"
  | .mod => "%"
  | .power => "**"
  | .leftShift => "<<"
  | .rightShift => ">>"
  | .rightShiftUnsigned => ">>>"
  | .less => "<"
  | .greater => ">"
  | .lessEq => "<="
  | .greaterEq => ">="
  | .isIn => "in"
  | .instanceOf => "instanceof"
  | .equal => "=="
  | .notEqual => "!="
  | .identical => "==="
  | .notIdentical => "!=="
  | .compare => "<=>"
  | .findRegex => "=~"
  | .matchRegex => "==~"
  | .bitAnd => "&"
  | .bitXor => "^"
  | .bitOr => "|"
  | .and => "&&"
  | .or => "||"
  | .index => "["
  | .safeIndex => "?["
  | .assign => "="
  | .plusAssign => "+="
  | .minusAssign => "-="
  | .multiplyAssign => "*="
  | .divideAssign => "/="
  | .modAssign => "%="
  | .powerAssign => "**="
  | .leftShiftAssign => "<<="
  | .rightShiftAssign => ">>="
  | .rightShiftUnsignedAssign => ">>>="
  | .bitAndAssign => "&="
  | .bitXorAssign => "^="
  | .bitOrAssign => "|="
  | .elvisAssign => "?="

/-- The display name. -/
def display : BinaryOp → String
  | .plus => "Plus"
  | .minus => "Minus"
  | .multiply => "Multiply"
  | .divide => "Divide"
  | .mod => "Mod"
  | .power => "Power"
  | .leftShift => "LeftShift"
  | .rightShift => "RightShift"
  | .rightShiftUnsigned => "RightShiftUnsigned"
  | .less => "Less"
  | .greater => "Greater"
  | .lessEq => "LessEq"
  | .greaterEq => "GreaterEq"
  | .isIn => "In"
  | .instanceOf => "InstanceOf"
  | .equal => "Equal"
  | .notEqual => "NotEqual"
  | .identical => "Identical"
  | .notIdentical => "NotIdentical"
  | .compare => "Compare"
  | .findRegex => "FindRegex"
  | .matchRegex => "MatchRegex"
  | .bitAnd => "BitAnd"
  | .bitXor => "BitXor"
  | .bitOr => "BitOr"
  | .and => "And"
  | .or => "Or"
  | .index => "Index"
  | .safeIndex => "SafeIndex"
  | .assign => "Assign"
  | .plusAssign => "PlusAssign"
  | .minusAssign => "MinusAssign"
  | .multiplyAssign => "MultiplyAssign"
  | .divideAssign => "DivideAssign"
  | .modAssign => "ModAssign"
  | .powerAssign => "PowerAssign"
  | .leftShiftAssign => "LeftShiftAssign"
  | .rightShiftAssign => "RightShiftAssign"
  | .rightShiftUnsignedAssign => "RightShiftUnsignedAssign"
  | .bitAndAssign => "BitAndAssign"
  | .bitXorAssign => "BitXorAssign"
  | .bitOrAssign => "BitOrAssign"
  | .elvisAssign => "ElvisAssign"

/-- All operators, in the order of their declaration. -/
def all : List BinaryOp :=
  [.plus, .minus, .multiply, .divide, .mod, .power, .leftShift, .rightShift, .rightShiftUnsigned,
   .less, .greater, .lessEq, .greaterEq, .isIn, .instanceOf, .equal, .notEqual, .identical,
   .notIdentical, .compare, .findRegex, .matchRegex, .bitAnd, .bitXor, .bitOr, .and, .or, .index,
   .safeIndex, .assign, .plusAssign, .minusAssign, .multiplyAssign, .divideAssign, .modAssign,
   .powerAssign, .leftShiftAssign, .rightShiftAssign, .rightShiftUnsignedAssign, .bitAndAssign,
   .bitXorAssign, .bitOrAssign, .elvisAssign]

/-- The operator that a text writes. -/
def ofText? (text : String) : Option BinaryOp := all.find? fun op => op.text == text

/-- Whether the operator assigns to its left operand. -/
def isAssignment : BinaryOp → Bool
  | .assign | .plusAssign | .minusAssign | .multiplyAssign | .divideAssign | .modAssign
  | .powerAssign | .leftShiftAssign | .rightShiftAssign | .rightShiftUnsignedAssign
  | .bitAndAssign | .bitXorAssign | .bitOrAssign | .elvisAssign => true
  | _ => false

/-- The bracket that opens a subscript, if the operator is one. -/
def bracket? : BinaryOp → Option String
  | .index => some "["
  | .safeIndex => some "?["
  | _ => none

end BinaryOp

/-! ## Steps -/

/-- An operator that adds or takes one. -/
inductive Step where
  /-- Adds one. -/
  | increment
  /-- Takes one. -/
  | decrement
deriving DecidableEq, Repr

namespace Step

/-- The written form. -/
def text : Step → String
  | .increment => "++"
  | .decrement => "--"

/-- The display name. -/
def display : Step → String
  | .increment => "Increment"
  | .decrement => "Decrement"

/-- The step that a text writes. -/
def ofText? (text : String) : Option Step := [increment, decrement].find? fun s => s.text == text

end Step

end GroovyLowering
