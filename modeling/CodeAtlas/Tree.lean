import CodeAtlas.Text.Position
import CodeAtlas.Text.Utf8

/-!
# Syntax trees

The trees that parsers give for source files. A node has a type, may be named, covers a range of bytes, and stands in a
field of its parent or in none.
-/

namespace CodeAtlas

/-- A node of a syntax tree. -/
inductive Node where
  | mk (type : String) (named : Bool) (start stop : Nat) (field : Option String) (children : List Node)
deriving Repr, Inhabited

namespace Node

/-- The type of a node. -/
def type : Node → String
  | mk t .. => t

/-- The node is named by the grammar. -/
def isNamed : Node → Bool
  | mk _ named .. => named

/-- The offset of the first byte. -/
def start : Node → Nat
  | mk _ _ start .. => start

/-- The offset after the last byte. -/
def stop : Node → Nat
  | mk _ _ _ stop .. => stop

/-- The field of the parent that holds the node. -/
def field : Node → Option String
  | mk _ _ _ _ field _ => field

/-- The children in source order. -/
def children : Node → List Node
  | mk _ _ _ _ _ children => children

/-- The named children. -/
def namedChildren (n : Node) : List Node := n.children.filter (·.isNamed)

/-- The children in a field. -/
def childrenIn (n : Node) (field : String) : List Node := n.children.filter (·.field = some field)

/-- The first child in a field. -/
def child? (n : Node) (field : String) : Option Node := n.children.find? (·.field = some field)

/-- The text of a node in the bytes of its file. -/
def text (source : List UInt8) (n : Node) : String :=
  String.ofList (Text.decodeLossy (Text.slice source n.start n.stop))

end Node

/-- The tree of a file. -/
structure Tree where
  root : Node
  /-- The parser met something it could not read. -/
  hasError : Bool
deriving Repr, Inhabited

end CodeAtlas
