import GroovyLowering.Tree.Grammar

/-!
# Concrete syntax trees

A parser hands over a tree of nodes.  Every node says which production of the grammar it comes
from and holds its children in source order, each with the role it plays in that production.  The
leaves are tokens, with the position they were read at.

The lowering finds a child by its role and never by its place in the list.  So the queries here
are the whole interface: `node?` and `token?` take the first child of a role, `nodes` and `tokens`
take all of them, and `has` asks whether there is any.

The first and the last token of a tree are found without a walk over all of it.  `allTokens` is
that walk, and `text` joins what it finds.

`size` counts nodes and tokens.  A child is smaller than its parent (`size_lt_of_node?`,
`size_lt_of_mem_nodes`), which is why a recursion on children ends.
-/

namespace GroovyLowering

/-! ## Tokens and nodes -/

/-- A piece of the source with its position. -/
structure Token where
  /-- Its category. -/
  kind : TokenKind
  /-- What is written. -/
  text : String
  /-- The line it starts on, counted from 1. -/
  line : Nat := 0
  /-- The characters before it on that line. -/
  column : Nat := 0
deriving DecidableEq, Repr

mutual

/-- A node of the tree. -/
structure Node where
  /-- The production it comes from. -/
  kind : NodeKind
  /-- Its children in source order, each with its role. -/
  children : List (Role × Element)

/-- A child of a node. -/
inductive Element where
  /-- A subtree. -/
  | node (n : Node)
  /-- A leaf. -/
  | token (t : Token)

end

instance : Inhabited Node := ⟨⟨.block, []⟩⟩

/-! ## Children by role -/

/-- The subtree of a child of a role, if it is one. -/
def Element.nodeIn? (role : Role) : Role × Element → Option Node
  | (r, .node n) => if r = role then some n else none
  | (_, .token _) => none

/-- The token of a child of a role, if it is one. -/
def Element.tokenIn? (role : Role) : Role × Element → Option Token
  | (r, .token t) => if r = role then some t else none
  | (_, .node _) => none

namespace Node

/-- The subtrees of a role, in order. -/
def nodes (n : Node) (role : Role) : List Node := n.children.filterMap (Element.nodeIn? role)

/-- The tokens of a role, in order. -/
def tokens (n : Node) (role : Role) : List Token := n.children.filterMap (Element.tokenIn? role)

/-- The first subtree of a role. -/
def node? (n : Node) (role : Role) : Option Node := (n.nodes role).head?

/-- The first token of a role. -/
def token? (n : Node) (role : Role) : Option Token := (n.tokens role).head?

/-- Whether any child, subtree or token, plays a role. -/
def has (n : Node) (role : Role) : Bool := n.children.any fun c => c.1 == role

end Node

/-! ## All tokens of a tree -/

mutual

/-- The first token of a tree. -/
def Node.firstToken? : Node → Option Token
  | ⟨_, children⟩ => firstTokenIn? children

/-- The first token of a child. -/
def Element.firstToken? : Element → Option Token
  | .node n => n.firstToken?
  | .token t => some t

/-- The first token of a list of children. -/
def firstTokenIn? : List (Role × Element) → Option Token
  | [] => none
  | (_, e) :: rest =>
    match e.firstToken? with
    | some t => some t
    | none => firstTokenIn? rest

end

mutual

/-- The last token of a tree. -/
def Node.lastToken? : Node → Option Token
  | ⟨_, children⟩ => lastTokenIn? children

/-- The last token of a child. -/
def Element.lastToken? : Element → Option Token
  | .node n => n.lastToken?
  | .token t => some t

/-- The last token of a list of children. -/
def lastTokenIn? : List (Role × Element) → Option Token
  | [] => none
  | (_, e) :: rest =>
    match lastTokenIn? rest with
    | some t => some t
    | none => e.lastToken?

end

mutual

/-- All tokens of a tree, in source order. -/
def Node.allTokens : Node → List Token
  | ⟨_, children⟩ => allTokensIn children

/-- All tokens of a child, in source order. -/
def Element.allTokens : Element → List Token
  | .node n => n.allTokens
  | .token t => [t]

/-- All tokens of a list of children, in source order. -/
def allTokensIn : List (Role × Element) → List Token
  | [] => []
  | (_, e) :: rest => e.allTokens ++ allTokensIn rest

end

/-- The texts of all tokens of a tree, with nothing between them. -/
def Node.text (n : Node) : String := String.join (n.allTokens.map Token.text)

/-! ## The size of a tree -/

mutual

/-- The number of nodes and tokens of a tree. -/
def Node.size : Node → Nat
  | ⟨_, children⟩ => sizeIn children + 1

/-- The number of nodes and tokens of a child. -/
def Element.size : Element → Nat
  | .node n => n.size
  | .token _ => 1

/-- The number of nodes and tokens of a list of children. -/
def sizeIn : List (Role × Element) → Nat
  | [] => 0
  | (_, e) :: rest => e.size + sizeIn rest

end

theorem size_le_sizeIn {children : List (Role × Element)} {role : Role} {n : Node}
    (h : (role, Element.node n) ∈ children) : n.size ≤ sizeIn children := by
  induction children with
  | nil => simp at h
  | cons c rest ih =>
    obtain ⟨r, e⟩ := c
    rcases List.mem_cons.1 h with heq | hrest
    · cases heq
      simp only [sizeIn, Element.size]
      omega
    · have := ih hrest
      simp only [sizeIn]
      omega

theorem Node.mem_children_of_mem_nodes {n c : Node} {role : Role} (h : c ∈ n.nodes role) :
    (role, Element.node c) ∈ n.children := by
  obtain ⟨⟨r, e⟩, hmem, hsome⟩ := List.mem_filterMap.1 h
  cases e with
  | token t => simp [Element.nodeIn?] at hsome
  | node m =>
    simp only [Element.nodeIn?] at hsome
    split at hsome
    · cases hsome
      subst_vars
      exact hmem
    · cases hsome

/-- A subtree of a role is smaller than the tree. -/
theorem Node.size_lt_of_mem_nodes {n c : Node} {role : Role} (h : c ∈ n.nodes role) :
    c.size < n.size := by
  have := size_le_sizeIn (mem_children_of_mem_nodes h)
  obtain ⟨kind, children⟩ := n
  simp only [size] at *
  omega

/-- The first subtree of a role is smaller than the tree. -/
theorem Node.size_lt_of_node? {n c : Node} {role : Role} (h : n.node? role = some c) :
    c.size < n.size :=
  size_lt_of_mem_nodes (List.mem_of_head? h)

end GroovyLowering
