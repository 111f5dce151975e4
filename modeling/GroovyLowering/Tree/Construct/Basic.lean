import GroovyLowering.Tree.Node

/-!
# Putting trees together

A tree can be written by hand, production by production.  This module has the steps that the
productions share: an empty node, and a child appended to a node.  Positions are left at 0:0, for
the layout to fill in.

Names come first, since every other production uses them.
-/

namespace GroovyLowering

/-- A token without a position. -/
def Token.unplaced (kind : TokenKind) (text : String) : Token := { kind, text }

namespace Node

/-- A node without children. -/
def bare (kind : NodeKind) : Node := ⟨kind, []⟩

/-- Append a subtree. -/
def withNode (n : Node) (role : Role) (child : Node) : Node :=
  { n with children := n.children ++ [(role, .node child)] }

/-- Append a token. -/
def withToken (n : Node) (role : Role) (t : Token) : Node :=
  { n with children := n.children ++ [(role, .token t)] }

/-- Append a token without a position. -/
def write (n : Node) (role : Role) (kind : TokenKind) (text : String) : Node :=
  n.withToken role (.unplaced kind text)

/-- Append punctuation. -/
def punct (n : Node) (text : String) : Node := n.write .punct .punct text

/-- Append a keyword. -/
def keyword (n : Node) (text : String) : Node := n.write .keyword .keyword text

/-- Append an operator. -/
def operator (n : Node) (text : String) : Node := n.write .operator .operator text

/-- Append a name. -/
def named (n : Node) (name : String) : Node := n.write .name .identifier name

/-- Append a subtree, if there is one. -/
def withNode? (n : Node) (role : Role) : Option Node → Node
  | some child => n.withNode role child
  | none => n

/-- Append subtrees of one role. -/
def withNodes (n : Node) (role : Role) (children : List Node) : Node :=
  children.foldl (fun n child => n.withNode role child) n

/-- Append subtrees of one role with a separator between them. -/
def withSeparated (n : Node) (separator : String) (role : Role) : List Node → Node
  | [] => n
  | first :: others =>
    others.foldl (fun n child => (n.punct separator).withNode role child) (n.withNode role first)

/-- Append subtrees of one role with commas between them. -/
def withList (n : Node) (role : Role) (children : List Node) : Node :=
  n.withSeparated "," role children

end Node

namespace Production

open Node

/-- Parts with dots between them. -/
def dotted (kind : NodeKind) : List String → Node
  | [] => bare kind
  | first :: others =>
    others.foldl (fun n part => (n.punct ".").write .part .identifier part)
      ((bare kind).write .part .identifier first)

/-- The name of a package or of something imported. -/
def qualifiedName (parts : List String) : Node := dotted .qualifiedName parts

/-- The name of a class. -/
def qualifiedClassName (parts : List String) : Node := dotted .qualifiedClassName parts

end Production

end GroovyLowering
