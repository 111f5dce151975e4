/-!
# Modifiers and their access flags

Every modifier keyword but `def` sets one access flag, and each flag is a bit of its own.  `def`
and annotations are modifiers without a flag.
-/

namespace GroovyLowering

/-- A kind of modifier. -/
inductive ModifierKind where
  /-- The keyword `public`. -/
  | publicAccess
  /-- The keyword `protected`. -/
  | protectedAccess
  /-- The keyword `private`. -/
  | privateAccess
  /-- The keyword `static`. -/
  | static
  /-- The keyword `abstract`. -/
  | abstract
  /-- The keyword `final`. -/
  | final
  /-- The keyword `native`. -/
  | native
  /-- The keyword `synchronized`. -/
  | synchronized
  /-- The keyword `transient`. -/
  | transient
  /-- The keyword `volatile`. -/
  | volatile
  /-- The keyword `strictfp`. -/
  | strictfp
  /-- The keyword `def`, the mark of a declaration without a type. -/
  | untyped
  /-- An annotation. -/
  | annotationUse
deriving DecidableEq, Repr

namespace ModifierKind

/-- The word for a kind: the keyword, or `annotation`. -/
def word : ModifierKind → String
  | .publicAccess => "public"
  | .protectedAccess => "protected"
  | .privateAccess => "private"
  | .static => "static"
  | .abstract => "abstract"
  | .final => "final"
  | .native => "native"
  | .synchronized => "synchronized"
  | .transient => "transient"
  | .volatile => "volatile"
  | .strictfp => "strictfp"
  | .untyped => "def"
  | .annotationUse => "annotation"

/-- All kinds, in the order of their declaration. -/
def all : List ModifierKind :=
  [.publicAccess, .protectedAccess, .privateAccess, .static, .abstract, .final, .native,
    .synchronized, .transient, .volatile, .strictfp, .untyped, .annotationUse]

/-- The kind that a word stands for. -/
def ofWord? (word : String) : Option ModifierKind := all.find? fun kind => kind.word == word

/-- The kind that a keyword stands for.  There is no keyword for annotations. -/
def ofKeyword? (word : String) : Option ModifierKind := (ofWord? word).filter (· != .annotationUse)

/-- The flag that a kind sets. -/
def accessFlag : ModifierKind → UInt32
  | .publicAccess => 0x0001
  | .privateAccess => 0x0002
  | .protectedAccess => 0x0004
  | .static => 0x0008
  | .final => 0x0010
  | .synchronized => 0x0020
  | .volatile => 0x0040
  | .transient => 0x0080
  | .native => 0x0100
  | .abstract => 0x0400
  | .strictfp => 0x0800
  | .untyped | .annotationUse => 0

/-- Whether a kind says who may see a declaration. -/
def isVisibility : ModifierKind → Bool
  | .publicAccess | .protectedAccess | .privateAccess => true
  | _ => false

/-- Whether a kind is a keyword other than `def`. -/
def isKeyword : ModifierKind → Bool
  | .untyped | .annotationUse => false
  | _ => true

end ModifierKind

/-- The flags of all kinds that say who may see a declaration. -/
def visibilityMask : UInt32 :=
  ModifierKind.publicAccess.accessFlag ||| ModifierKind.privateAccess.accessFlag |||
    ModifierKind.protectedAccess.accessFlag

end GroovyLowering
