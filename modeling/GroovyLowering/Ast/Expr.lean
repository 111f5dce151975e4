import GroovyLowering.Ast.Constant
import GroovyLowering.Ast.Operator
import GroovyLowering.Ast.TypeRef

/-!
# Expressions and statements

An expression is a shape with the span it comes from and whether parentheses were written around
it.  A statement is a shape with its span and the labels in front of it.  The two contain each
other, since a closure holds statements.

Everything that carries a span of its own is a structure, so its span can be replaced.
-/

namespace GroovyLowering

/-- A variable or the name a declaration introduces. -/
structure Variable where
  /-- Its name. -/
  name : String
  /-- Its type. -/
  type : TypeRef
  /-- Its access flags. -/
  modifiers : UInt32 := 0

/-- The place of a name in a tuple declaration. -/
structure TupleSlot where
  /-- Its index, counted from 0. -/
  index : Nat
  /-- The number of names. -/
  arity : Nat
deriving DecidableEq, Repr

mutual

/-- An expression. -/
structure Expr where
  /-- What it says. -/
  shape : ExprShape
  /-- Where it comes from. -/
  span : Span
  /-- Whether it was written in parentheses. -/
  parenthesized : Bool := false

/-- What an expression says. -/
inductive ExprShape where
  /-- A constant. -/
  | constant (value : Constant)
  /-- A variable. -/
  | name (value : Variable)
  /-- A declaration. -/
  | declaration (value : Declaration)
  /-- An interpolated string: its text, the constants between its values and the values. -/
  | gstring (verbatim : String) (strings values : List Expr)
  /-- A property of an object. -/
  | property (access : Access)
  /-- A field of an object, past its accessors. -/
  | field (access : Access)
  /-- A method as a value. -/
  | methodPointer (object method : Expr)
  /-- A method call. -/
  | methodCall (call : Call)
  /-- A new object. -/
  | newObject (type : TypeRef) (arguments : Arguments)
  /-- A new array.  A size that is not written is `null`. -/
  | newArray (elementType : TypeRef) (sizes : List Expr)
  /-- An operator between two operands. -/
  | binary (left : Expr) (op : BinaryOp) (right : Expr)
  /-- A range, with its upper end or without it. -/
  | range (lower upper : Expr) (inclusive : Bool)
  /-- A step after the value is taken. -/
  | stepAfter (expr : Expr) (op : Step)
  /-- A step before the value is taken. -/
  | stepBefore (op : Step) (expr : Expr)
  /-- A plus sign. -/
  | plus (expr : Expr)
  /-- A minus sign. -/
  | minus (expr : Expr)
  /-- The negation of a truth value. -/
  | not (expr : Expr)
  /-- The negation of bits, or a pattern. -/
  | bitNot (expr : Expr)
  /-- The truth value of a condition. -/
  | truth (expr : Expr)
  /-- A cast; a coercion if written with `as`. -/
  | cast (type : TypeRef) (expr : Expr) (coerce : Bool)
  /-- A type used as a value. -/
  | classValue (type : TypeRef)
  /-- A choice between two values. -/
  | ternary (condition yes no : Expr)
  /-- A value, or another one if it is not true. -/
  | elvis (value no : Expr)
  /-- A closure. -/
  | closure (parameters : ClosureParameters) (code : Stmt)
  /-- A list; a wrapped one holds the several indices of a subscript. -/
  | list (elements : List Expr) (wrapped : Bool)
  /-- A map. -/
  | map (entries : List MapEntry)
  /-- An element that is spread. -/
  | spread (expr : Expr)
  /-- The key of an entry that is spread. -/
  | spreadMap (expr : Expr)
  /-- Arguments on their own. -/
  | argumentList (arguments : Arguments)
  /-- The clauses of a loop header. -/
  | clauses (exprs : List Expr)
  /-- An annotation as a value. -/
  | annotationUse (value : Annotation)
  /-- Nothing. -/
  | empty

/-- The declaration of one name. -/
structure Declaration where
  /-- The declared variable. -/
  declared : Variable
  /-- Where its name is written. -/
  nameSpan : Span
  /-- Its value, or nothing.  The names of a tuple have one value together. -/
  initializer : Expr
  /-- The place in a tuple, if it is in one. -/
  slot : Option TupleSlot
  /-- Its annotations. -/
  annotations : List Annotation

/-- A member of an object. -/
structure Access where
  /-- The object. -/
  object : Expr
  /-- The member. -/
  member : Expr
  /-- Whether null gives null. -/
  safe : Bool := false
  /-- Whether the member is taken of every element. -/
  spreadSafe : Bool := false
  /-- The type arguments in front of the member, for the call it may become. -/
  generics : Option (List TypeArgument) := none

/-- A method call. -/
structure Call where
  /-- The object. -/
  object : Expr
  /-- The method. -/
  method : Expr
  /-- The arguments. -/
  arguments : Arguments
  /-- Whether the object is `this` without being written. -/
  implicitThis : Bool := false
  /-- Whether null gives null. -/
  safe : Bool := false
  /-- Whether the method is called on every element. -/
  spreadSafe : Bool := false
  /-- The type arguments in front of the method. -/
  generics : Option (List TypeArgument) := none

/-- The arguments of a call: values, or `name: value` entries. -/
inductive Arguments where
  /-- Values. -/
  | positional (args : List Expr) (span : Span)
  /-- Entries. -/
  | named (entries : List MapEntry) (span : Span)

/-- A key and a value. -/
structure MapEntry where
  /-- The key. -/
  key : Expr
  /-- The value. -/
  value : Expr
  /-- Where the entry is written. -/
  span : Span

/-- The parameters of a closure. -/
inductive ClosureParameters where
  /-- No arrow is written: one parameter that is not named. -/
  | implicit
  /-- The parameters in front of the arrow. -/
  | explicit (parameters : List Parameter)

/-- An annotation. -/
structure Annotation where
  /-- Its class. -/
  className : String
  /-- Its members in source order.  No name comes twice. -/
  members : List (String × Expr)
  /-- Where it is written. -/
  span : Span

/-- A parameter of a method, a closure, a loop or a catch clause. -/
structure Parameter where
  /-- Its name. -/
  name : String
  /-- Its type. -/
  type : TypeRef
  /-- Its access flags. -/
  modifiers : UInt32 := 0
  /-- Its annotations. -/
  annotations : List Annotation := []
  /-- The value it has when none is given. -/
  defaultValue : Option Expr := none
  /-- Where it is written. -/
  span : Span

/-- A statement. -/
structure Stmt where
  /-- What it says. -/
  shape : StmtShape
  /-- Where it comes from. -/
  span : Span
  /-- The labels in front of it, the innermost one first. -/
  labels : List String := []

/-- What a statement says. -/
inductive StmtShape where
  /-- Statements in a scope of their own. -/
  | block (statements : List Stmt)
  /-- An expression. -/
  | expression (expr : Expr)
  /-- An assertion. -/
  | assertion (condition : Expr) (message : Option Expr)
  /-- A choice between two statements. -/
  | conditional (condition : Expr) (yes no : Stmt)
  /-- A loop over a collection.  A loop with three clauses has no binder. -/
  | forLoop (binder : Option Parameter) (collection : Expr) (body : Stmt)
  /-- A loop with a condition. -/
  | whileLoop (condition : Expr) (body : Stmt)
  /-- A block with clauses for what it throws, and a block that runs at its end. -/
  | tryCatch (body : Stmt) (catches : List CatchClause) (atEnd : Stmt)
  /-- A choice between cases. -/
  | switch (subject : Expr) (cases : List SwitchCase) (otherwise : Stmt)
  /-- A statement that holds a lock. -/
  | synchronized (lock : Expr) (body : Stmt)
  /-- The value of the enclosing method. -/
  | returnValue (value : Expr)
  /-- An exception. -/
  | throwValue (value : Expr)
  /-- The end of a loop or switch, of the one with a label if there is one. -/
  | breakLoop (label : Option String)
  /-- The next round of a loop, of the one with a label if there is one. -/
  | continueLoop (label : Option String)
  /-- Nothing. -/
  | empty

/-- A clause for exceptions of one type. -/
structure CatchClause where
  /-- The exception. -/
  parameter : Parameter
  /-- What to do. -/
  body : Stmt
  /-- Where it is written. -/
  span : Span

/-- A case of a switch. -/
structure SwitchCase where
  /-- The value it is for. -/
  value : Expr
  /-- What to do; nothing if the next case says it. -/
  body : Stmt
  /-- Where it is written. -/
  span : Span

end

/-! ## Expressions -/

namespace Expr

/-- A constant. -/
def constant (value : Constant) (span : Span) : Expr := { shape := .constant value, span }

/-- The constant `null`. -/
def null (span : Span) : Expr := constant .null span

/-- The constant of a name, or of another text that is no literal. -/
def symbol (text : String) (span : Span) : Expr := constant (.string text) span

/-- A variable without a type. -/
def named (name : String) (span : Span) : Expr :=
  { shape := .name { name, type := .dynamic span }, span }

/-- The object that the code belongs to. -/
def self (span : Span) : Expr := named "this" span

/-- Nothing. -/
def nothing (span : Span) : Expr := { shape := .empty, span }

/-- The truth value of a condition. -/
def truth (condition : Expr) (span : Span) : Expr := { shape := .truth condition, span }

/-- The same expression with another span. -/
def withSpan (e : Expr) (span : Span) : Expr := { e with span }

/-- The variable that an expression is. -/
def asVariable? (e : Expr) : Option Variable :=
  match e.shape with
  | .name v => some v
  | _ => none

/-- The constant that an expression is. -/
def asConstant? (e : Expr) : Option Constant :=
  match e.shape with
  | .constant c => some c
  | _ => none

/-- Whether an expression is the constant `null`. -/
def isNull (e : Expr) : Bool := e.asConstant?.any fun c => c.value == .null

/-- Whether an expression is a method call. -/
def isCall (e : Expr) : Bool :=
  match e.shape with
  | .methodCall _ => true
  | _ => false

/-- Whether an expression is a property or a field of an object. -/
def isAccess (e : Expr) : Bool :=
  match e.shape with
  | .property _ | .field _ => true
  | _ => false

/-- Whether an expression is nothing. -/
def isNothing (e : Expr) : Bool :=
  match e.shape with
  | .empty => true
  | _ => false

/-- Whether an expression is the key of an entry that is spread. -/
def isSpreadKey (e : Expr) : Bool :=
  match e.shape with
  | .spreadMap _ => true
  | _ => false

end Expr

/-! ## Arguments -/

namespace Arguments

/-- Where arguments are written. -/
def span : Arguments → Span
  | .positional _ span | .named _ span => span

/-- The same arguments with another span. -/
def withSpan (span : Span) : Arguments → Arguments
  | .positional args _ => .positional args span
  | .named entries _ => .named entries span

/-- Whether there are no arguments. -/
def isEmpty : Arguments → Bool
  | .positional args _ => args.isEmpty
  | .named entries _ => entries.isEmpty

end Arguments

/-! ## Statements -/

namespace Stmt

/-- A block. -/
def block (statements : List Stmt) (span : Span) : Stmt := { shape := .block statements, span }

/-- Nothing. -/
def nothing (span : Span) : Stmt := { shape := .empty, span }

/-- The same statement with another span. -/
def withSpan (s : Stmt) (span : Span) : Stmt := { s with span }

/-- Whether a statement is nothing. -/
def isNothing (s : Stmt) : Bool :=
  match s.shape with
  | .empty => true
  | _ => false

/-- The expression that a statement is. -/
def expression? (s : Stmt) : Option Expr :=
  match s.shape with
  | .expression e => some e
  | _ => none

end Stmt

end GroovyLowering
