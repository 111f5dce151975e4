import GroovyLowering.Ast.Unit
import GroovyLowering.Modifier.Flag

/-!
# The modifiers of a declaration

The modifiers in front of a declaration are collected once, in source order, and applied to what
is declared: the flags of all of them together, and their annotations in order.

A method is public when no keyword says who may see it.  Whether that counts as synthetic depends
on the facts that `VisibilityFacts` gathers.
-/

namespace GroovyLowering

/-- A modifier in front of a declaration. -/
structure Modifier where
  /-- Its kind. -/
  kind : ModifierKind
  /-- The annotation that it is, if it is one. -/
  attached : Option Annotation
  /-- Where it is written. -/
  span : Span

namespace Modifier

/-- A keyword. -/
def ofKind (kind : ModifierKind) (span : Span) : Modifier := ⟨kind, none, span⟩

/-- An annotation. -/
def ofAnnotationUse (a : Annotation) : Modifier := ⟨.annotationUse, some a, a.span⟩

end Modifier

/-- What the visibility of a method without a visibility keyword depends on. -/
structure VisibilityFacts where
  /-- A keyword says who may see the method. -/
  hasVisibility : Bool
  /-- There is another keyword, `def` aside. -/
  hasOther : Bool
  /-- There is an annotation. -/
  hasAnnotations : Bool
  /-- A return type is written. -/
  hasReturnType : Bool
  /-- There is a `def`. -/
  hasUntypedMark : Bool
  /-- The method is a member of an annotation type. -/
  isAnnotationMember : Bool
deriving DecidableEq, Repr

/-- Whether a method is public without the keyword.  `def` together with a return type counts as
such a mark, and so does any other modifier and a return type that is left out. -/
def VisibilityFacts.isSyntheticPublic (facts : VisibilityFacts) : Bool :=
  !facts.hasVisibility &&
    (facts.isAnnotationMember || (facts.hasUntypedMark && facts.hasReturnType) ||
      facts.hasOther || facts.hasAnnotations || !facts.hasReturnType)

/-- The modifiers in front of a declaration, in source order. -/
structure ModifierSet where
  /-- The modifiers. -/
  items : List Modifier := []

namespace ModifierSet

/-- Whether there are no modifiers. -/
def isEmpty (m : ModifierSet) : Bool := m.items.isEmpty

/-- Whether there is a modifier of a kind. -/
def contains (m : ModifierSet) (kind : ModifierKind) : Bool := m.items.any fun i => i.kind == kind

/-- Whether a keyword says who may see the declaration. -/
def hasVisibility (m : ModifierSet) : Bool := m.items.any fun i => i.kind.isVisibility

/-- Whether there is another keyword, `def` aside. -/
def hasOther (m : ModifierSet) : Bool :=
  m.items.any fun i => i.kind.isKeyword && !i.kind.isVisibility

/-- The annotations, in source order. -/
def annotations (m : ModifierSet) : List Annotation := m.items.filterMap Modifier.attached

/-- The flags of all modifiers together. -/
def flags (m : ModifierSet) : UInt32 := m.items.foldl (fun acc i => acc ||| i.kind.accessFlag) 0

/-- A variable with the flags added. -/
def applyToVariable (m : ModifierSet) (v : Variable) : Variable :=
  { v with modifiers := v.modifiers ||| m.flags }

/-- A parameter with the flags and annotations added. -/
def applyToParameter (m : ModifierSet) (p : Parameter) : Parameter :=
  { p with modifiers := p.modifiers ||| m.flags, annotations := p.annotations ++ m.annotations }

/-- A declaration with the flags and annotations added. -/
def applyToDeclaration (m : ModifierSet) (d : Declaration) : Declaration :=
  { d with declared := m.applyToVariable d.declared, annotations := d.annotations ++ m.annotations }

/-- A method with the flags and annotations added. -/
def applyToMethod (m : ModifierSet) (d : MethodDecl) : MethodDecl :=
  { d with modifiers := d.modifiers ||| m.flags, annotations := d.annotations ++ m.annotations }

/-- The facts that the visibility of a method depends on. -/
def visibilityFacts (m : ModifierSet) (hasReturnType isAnnotationMember : Bool) :
    VisibilityFacts where
  hasVisibility := m.hasVisibility
  hasOther := m.hasOther
  hasAnnotations := m.contains .annotationUse
  hasReturnType := hasReturnType
  hasUntypedMark := m.contains .untyped
  isAnnotationMember := isAnnotationMember

end ModifierSet

end GroovyLowering
