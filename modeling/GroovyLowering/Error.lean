import GroovyLowering.Literal.Number
import GroovyLowering.Span
import GroovyLowering.Tree.Grammar

/-!
# Errors

Lowering stops at the first problem.  A `Complaint` is the cause of a problem and
`Complaint.message` its wording.  A `CompileError` adds the place, and the text of the construct
where the construct as such is refused.

A record is what is kept of an error for a report: the message and the place.  A sink collects
records in the order they arrive.
-/

namespace GroovyLowering

/-! ## Causes -/

/-- What is wrong with a construct. -/
inductive Complaint where
  /-- A child that the production must have is not there. -/
  | missing (role : Role) (kind : NodeKind)
  /-- The tree of a file is not a compilation unit. -/
  | notAUnit (kind : NodeKind)
  /-- A static import names no member. -/
  | noImportedMember
  /-- An import names nothing. -/
  | noImportedClass
  /-- No expression has this production. -/
  | unsupportedExpression
  /-- No unary operation has this operator. -/
  | unsupportedUnary
  /-- No step has this operator. -/
  | unsupportedStep
  /-- No binary operation has this operator. -/
  | unsupportedBinary
  /-- No type test has this operator. -/
  | unsupportedTypeTest
  /-- No assignment has this operator. -/
  | unsupportedAssignment
  /-- A constant that is no number has a minus sign. -/
  | negatedValue
  /-- No literal has this category. -/
  | unsupportedLiteral
  /-- A string literal has no delimiter. -/
  | malformedString
  /-- A numeric literal has no value. -/
  | badNumber (error : Literal.NumberError)
  /-- Neither arguments nor dimensions follow a type behind `new`. -/
  | unsupportedCreator
  /-- No path element has this form. -/
  | unsupportedPathElement
  /-- No name behind a member operator has this form. -/
  | unsupportedNamePart
  /-- A primitive type is called. -/
  | primitiveCalled (name : String)
  /-- Something else than a variable is assigned to. -/
  | assignedToNonVariable
  /-- Arguments follow a head that is a call already. -/
  | argumentsAfterCall
  /-- No further word of a command has this form. -/
  | unsupportedCommandArgument
  /-- No statement has this production. -/
  | unsupportedStatement
  /-- A type is declared. -/
  | unsupportedTypeDeclaration
  /-- A method is declared inside a statement. -/
  | nestedMethod
  /-- A method is declared in a script that may not have any. -/
  | scriptMethod
  /-- No loop has this header. -/
  | unsupportedForControl
  /-- A switch group has no label. -/
  | groupWithoutLabel
  /-- No switch label has this keyword. -/
  | unsupportedSwitchLabel
  /-- A switch has several default labels. -/
  | duplicateDefault
  /-- A case follows the default label of a switch. -/
  | defaultNotLast
  /-- No type has this form. -/
  | unsupportedType
  /-- No wildcard has a bound with this keyword. -/
  | unsupportedBound
  /-- No modifier has this keyword. -/
  | unsupportedModifier
  /-- No annotation value has this form. -/
  | unsupportedAnnotationValue
  /-- An annotation has a member twice. -/
  | duplicateMember (name : String)
  /-- A declaration declares nothing. -/
  | unsupportedDeclaration
  /-- A tuple is declared without `def`. -/
  | tupleWithoutDef
  /-- No return type has this form. -/
  | unsupportedReturnType
  /-- A problem that is worded elsewhere. -/
  | worded (message : String)
deriving DecidableEq, Repr

/-- The wording of a cause. -/
def Complaint.message : Complaint → String
  | .missing role kind => "Missing " ++ role.display ++ " in " ++ kind.display
  | .notAUnit kind => "Expected compilation unit, got " ++ kind.display
  | .noImportedMember => "Missing imported member"
  | .noImportedClass => "Missing imported class"
  | .unsupportedExpression => "Unsupported expression"
  | .unsupportedUnary => "Unsupported unary operation"
  | .unsupportedStep => "Unsupported increment or decrement"
  | .unsupportedBinary => "Unsupported binary operator"
  | .unsupportedTypeTest => "Unsupported relational expression"
  | .unsupportedAssignment => "Unsupported assignment operator"
  | .negatedValue => "Unexpected value"
  | .unsupportedLiteral => "Unsupported literal"
  | .malformedString => "Malformed string literal"
  | .badNumber error => error.message
  | .unsupportedCreator => "Unsupported creator"
  | .unsupportedPathElement => "Unsupported path element"
  | .unsupportedNamePart => "Unsupported name part"
  | .primitiveCalled name =>
    "Primitive type literal: " ++ name ++ " cannot be used as a method name"
  | .assignedToNonVariable => "The LHS of an assignment should be a variable"
  | .argumentsAfterCall => "Unexpected argument list after a method call"
  | .unsupportedCommandArgument => "Unsupported command argument"
  | .unsupportedStatement => "Unsupported statement"
  | .unsupportedTypeDeclaration => "Unsupported type declaration"
  | .nestedMethod => "Method declarations are only allowed at the top level of a script"
  | .scriptMethod => "Method declarations are not allowed in this script"
  | .unsupportedForControl => "Unsupported for control"
  | .groupWithoutLabel => "Switch group without a label"
  | .unsupportedSwitchLabel => "Unsupported switch label"
  | .duplicateDefault =>
    "switch statement should have only one default case, default should appear last"
  | .defaultNotLast => "default should appear last"
  | .unsupportedType => "Unsupported type"
  | .unsupportedBound => "Unsupported wildcard bound"
  | .unsupportedModifier => "Unsupported modifier"
  | .unsupportedAnnotationValue => "Unsupported annotation value"
  | .duplicateMember name => "Duplicate annotation member: " ++ name
  | .unsupportedDeclaration => "Unsupported local variable declaration"
  | .tupleWithoutDef =>
    "keyword def is required to declare tuple, e.g. def (int a, int b) = [1, 2]"
  | .unsupportedReturnType => "Unsupported return type"
  | .worded message => message

/-! ## Errors -/

/-- Why a tree is not lowered. -/
inductive CompileError where
  /-- A construct has a form that is not handled. -/
  | structural (complaint : Complaint) (text : String) (span : Span)
  /-- A rule is violated. -/
  | invalid (complaint : Complaint) (span : Span)
  /-- The parser found an error. -/
  | relayed (message : String) (span : Span)
  /-- Statements and expressions nest deeper than the limit. -/
  | nestingTooDeep (limit : Nat) (span : Span)
deriving DecidableEq, Repr

/-- The broad classes of errors. -/
inductive ErrorKind where
  /-- A form that is not handled. -/
  | structural
  /-- A rule that is violated. -/
  | invalid
  /-- An error of the parser. -/
  | relayed
deriving DecidableEq, Repr

/-- What is kept of an error for a report. -/
structure ErrorRecord where
  /-- What is wrong. -/
  message : String
  /-- Where. -/
  span : Span
deriving DecidableEq, Repr

namespace CompileError

/-- The class of an error. -/
def kind : CompileError → ErrorKind
  | .structural .. | .nestingTooDeep .. => .structural
  | .invalid .. => .invalid
  | .relayed .. => .relayed

/-- The place of an error. -/
def span : CompileError → Span
  | .structural _ _ span | .invalid _ span | .relayed _ span | .nestingTooDeep _ span => span

/-- What is wrong, without the place. -/
def message : CompileError → String
  | .structural complaint text _ => complaint.message ++ ": " ++ text
  | .invalid complaint _ => complaint.message
  | .relayed message _ => message
  | .nestingTooDeep limit _ => "nesting too deep, exceeded limit of " ++ toString limit

/-- What is wrong, with the place. -/
def text : CompileError → String
  | .structural complaint text span => complaint.message ++ ": " ++ text ++ " @ " ++ span.text
  | .invalid complaint span => complaint.message ++ " @ " ++ span.text
  | .relayed message span => "Failure to parse program @ " ++ span.text ++ ": " ++ message
  | .nestingTooDeep limit span =>
    "Nesting too deep (limit " ++ toString limit ++ ") @ " ++ span.text

/-- What is kept of an error. -/
def record (e : CompileError) : ErrorRecord := ⟨e.message, e.span⟩

end CompileError

/-! ## Records in the order they arrive -/

/-- The records of the errors found so far, the first one first. -/
structure ErrorSink where
  /-- The records. -/
  errors : List ErrorRecord := []

namespace ErrorSink

/-- Add a record. -/
def add (sink : ErrorSink) (record : ErrorRecord) : ErrorSink := ⟨sink.errors ++ [record]⟩

/-- Whether there is any record. -/
def hasErrors (sink : ErrorSink) : Bool := !sink.errors.isEmpty

end ErrorSink

end GroovyLowering
