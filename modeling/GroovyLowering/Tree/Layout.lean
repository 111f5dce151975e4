import GroovyLowering.Text.Lines
import GroovyLowering.Tree.Node

/-!
# Laying a tree out

A tree that was put together by hand has tokens without positions.  `Node.layOut` walks it in
source order, gives every token a position and writes the text that the positions refer to.

* Two tokens on a line are separated by one space.  A token at the start of a line stands there
  directly.
* In a compilation unit, a block and a statement list, every statement, package and import starts
  a new line.  Where there are statements the closing punctuation starts a new line as well.
* A line feed inside a token moves to the next line, so the next token goes on behind what the
  token wrote on its last line.
* Nothing starts a new line at the start of a line.

The only state is the cursor: the next position, and the text written before it.
-/

namespace GroovyLowering

/-- The next position, and the text written before it. -/
structure Cursor where
  /-- The current line, counted from 1. -/
  line : Nat := 1
  /-- The characters written on it. -/
  column : Nat := 0
  /-- All that is written. -/
  text : String := ""

namespace Cursor

/-- Go to the next line, unless nothing is written on this one. -/
def newLine (c : Cursor) : Cursor :=
  if c.text.isEmpty || c.column == 0 then c else ⟨c.line + 1, 0, c.text ++ "\n"⟩

/-- Leave a space behind what is written on this line. -/
def space (c : Cursor) : Cursor :=
  if c.column = 0 then c else { c with column := c.column + 1, text := c.text ++ " " }

/-- Write a text.  A line feed in it moves to the start of the next line. -/
def write (c : Cursor) (text : String) : Cursor :=
  let newlines := text.toList.count '\n'
  { line := c.line + newlines
    column := if newlines = 0 then c.column + text.length else (Text.lastLine text.toList).length
    text := c.text ++ text }

end Cursor

/-- Whether the children of a production go on lines of their own. -/
def NodeKind.isStacked : NodeKind → Bool
  | .compilationUnit | .block | .blockStatements => true
  | _ => false

/-- Whether a child of this role starts a line, where children go on lines of their own. -/
def Role.startsLine : Role → Bool
  | .statement | .packageDeclaration | .importDeclaration => true
  | _ => false

/-- A token at the next position, and the position behind it. -/
def Token.place (t : Token) (c : Cursor) : Token × Cursor :=
  let here := c.space
  ({ t with line := here.line, column := here.column }, here.write t.text)

mutual

/-- A tree from the next position on, and the position behind it. -/
def Node.place : Node → Cursor → Node × Cursor
  | ⟨kind, children⟩, c =>
    let hasStatements := children.any fun child => child.1 == .statement
    let placed := placeIn kind.isStacked hasStatements children c
    (⟨kind, placed.1⟩, placed.2)

/-- A child from the next position on, and the position behind it. -/
def Element.place : Element → Cursor → Element × Cursor
  | .node n, c =>
    let placed := n.place c
    (.node placed.1, placed.2)
  | .token t, c =>
    let placed := t.place c
    (.token placed.1, placed.2)

/-- A list of children from the next position on, and the position behind it.  Where children are
stacked, `hasStatements` says that a last punctuation gets a line of its own. -/
def placeIn (isStacked hasStatements : Bool) :
    List (Role × Element) → Cursor → List (Role × Element) × Cursor
  | [], c => ([], c)
  | (role, e) :: rest, c =>
    let closer := role == .punct && rest.isEmpty && hasStatements
    let placed := e.place (if isStacked && (closer || role.startsLine) then c.newLine else c)
    let others := placeIn isStacked hasStatements rest placed.2
    ((role, placed.1) :: others.1, others.2)

end

/-- A tree with positions, and the source they refer to. -/
structure LaidOut where
  /-- The tree. -/
  root : Node
  /-- The source. -/
  source : String

/-- Give every token of a tree a position and write the source. -/
def Node.layOut (n : Node) : LaidOut :=
  let placed := n.place {}
  ⟨placed.1, placed.2.text⟩

end GroovyLowering
