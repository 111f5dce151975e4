import GroovyLowering.Span

/-!
# Types as they are written

A type is a class with perhaps type arguments, a primitive type, an array, `void`, or not written
at all.  A type argument is a type or a wildcard.

`text` writes a type with its type arguments, `name` without them.
-/

namespace GroovyLowering

mutual

/-- A type with the place it is written at. -/
structure TypeRef where
  /-- What is written. -/
  shape : TypeShape
  /-- Where it is written. -/
  span : Span

/-- What a type says. -/
inductive TypeShape where
  /-- A class, by its name as written.  Without type arguments there is no list, and an empty
  list is a diamond. -/
  | named (name : String) (generics : Option (List TypeArgument))
  /-- A primitive type. -/
  | primitive (name : String)
  /-- An array. -/
  | array (component : TypeRef)
  /-- No value. -/
  | void
  /-- No type is written. -/
  | dynamic

/-- A type argument with the place it is written at. -/
structure TypeArgument where
  /-- What is written. -/
  shape : TypeArgumentShape
  /-- Where it is written. -/
  span : Span

/-- What a type argument says. -/
inductive TypeArgumentShape where
  /-- A type. -/
  | exact (type : TypeRef)
  /-- A wildcard, with an upper or a lower bound or neither. -/
  | wildcard (upper lower : Option TypeRef)

end

namespace TypeShape

/-- Whether no type is written. -/
def isDynamic : TypeShape → Bool
  | .dynamic => true
  | _ => false

/-- The type with other type arguments, if it is a class. -/
def withGenerics (generics : Option (List TypeArgument)) : TypeShape → TypeShape
  | .named name _ => .named name generics
  | shape => shape

end TypeShape

/-! ## The name of a type -/

mutual

/-- The name of a type, without type arguments. -/
def TypeRef.name : TypeRef → String
  | ⟨shape, _⟩ => shape.name

/-- The name of what a type says. -/
def TypeShape.name : TypeShape → String
  | .named name _ => name
  | .primitive name => name
  | .array component => component.name ++ "[]"
  | .void => "void"
  | .dynamic => "java.lang.Object"

end

/-! ## The written form of a type -/

mutual

/-- The written form of a type. -/
def TypeRef.text : TypeRef → String
  | ⟨shape, _⟩ => shape.text

/-- The written form of what a type says. -/
def TypeShape.text : TypeShape → String
  | .named name none => name
  | .named name (some generics) =>
    name ++ "<" ++ ", ".intercalate (typeArgumentTexts generics) ++ ">"
  | .primitive name => name
  | .array component => component.text ++ "[]"
  | .void => "void"
  | .dynamic => "java.lang.Object"

/-- The written form of a type argument. -/
def TypeArgument.text : TypeArgument → String
  | ⟨shape, _⟩ => shape.text

/-- The written form of what a type argument says.  An upper bound is written before a lower
one is looked for. -/
def TypeArgumentShape.text : TypeArgumentShape → String
  | .exact type => type.text
  | .wildcard (some upper) _ => "? extends " ++ upper.text
  | .wildcard none (some lower) => "? super " ++ lower.text
  | .wildcard none none => "?"

/-- The written forms of type arguments. -/
def typeArgumentTexts : List TypeArgument → List String
  | [] => []
  | argument :: rest => argument.text :: typeArgumentTexts rest

end

/-- The written form of a list of type arguments. -/
def genericsText (generics : List TypeArgument) : String :=
  "<" ++ ", ".intercalate (typeArgumentTexts generics) ++ ">"

namespace TypeRef

/-- A class without type arguments. -/
def named (name : String) (span : Span) : TypeRef := ⟨.named name none, span⟩

/-- No type. -/
def dynamic (span : Span) : TypeRef := ⟨.dynamic, span⟩

/-- The array of a type, at the same place. -/
def arrayOf (type : TypeRef) : TypeRef := ⟨.array type, type.span⟩

/-- The type arguments of a class. -/
def generics (type : TypeRef) : Option (List TypeArgument) :=
  match type.shape with
  | .named _ generics => generics
  | _ => none

end TypeRef

end GroovyLowering
