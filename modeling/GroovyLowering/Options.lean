/-!
# Options of a lowering

Three settings govern a lowering, and each of them has a default.
-/

namespace GroovyLowering

/-- The settings of a lowering. -/
structure LowerOptions where
  /-- How deep statements and expressions may nest. -/
  maxDepth : Nat := 512
  /-- Whether a script without statements returns `null`. -/
  blankScriptReturn : Bool := true
  /-- Whether a script may declare methods. -/
  allowScriptMethods : Bool := true
deriving DecidableEq, Repr

end GroovyLowering
