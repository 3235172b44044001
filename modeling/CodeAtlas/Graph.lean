import CodeAtlas.Document
import CodeAtlas.Element

/-!
# Knowledge graphs

The elements of a run as nodes and its relations as edges. `Graph.build` keeps the order of both and leaves out relations
that start or end at no element.
-/

namespace CodeAtlas

/-- A node of the graph. -/
structure GraphNode where
  id : String
  name : String
  kind : String
  file : String
  location : Location
  implementation : String
deriving Repr, DecidableEq

/-- A directed edge of the graph. -/
structure GraphEdge where
  source : String
  target : String
  kind : String
  properties : List (String × Document)
deriving Repr

/-- Nodes and edges. -/
structure Graph where
  nodes : List GraphNode
  edges : List GraphEdge
deriving Repr

namespace Graph

/-- The graph without nodes. -/
def empty : Graph := ⟨[], []⟩

/-- The node of an element. -/
def nodeOf (e : Element) : GraphNode := ⟨e.id, e.name, e.kind.name, e.file, e.location, e.implementation⟩

/-- The edge of a relation. -/
def edgeOf (r : Relation) : GraphEdge := ⟨r.source, r.target, r.kind.name, []⟩

/-- The ids of the nodes. -/
def nodeIds (g : Graph) : List String := g.nodes.map (·.id)

/-- Splits relations into those that start and end at the given ids and the others. -/
def splitRelations (ids : List String) (relations : List Relation) : List Relation × List Relation :=
  relations.partition fun r => ids.contains r.source && ids.contains r.target

/-- The graph of elements and relations. -/
def build (elements : List Element) (relations : List Relation) : Graph where
  nodes := elements.map nodeOf
  edges := (splitRelations (elements.map (·.id)) relations).1.map edgeOf

theorem nodeIds_build (elements : List Element) (relations : List Relation) :
    (build elements relations).nodeIds = elements.map (·.id) := by
  simp [nodeIds, build, nodeOf]

/-! ## As documents -/

/-- A location as a document. -/
def locationDocument (l : Location) : Document := .object [
  ("start_line", .int l.startLine), ("start_column", .int l.startColumn), ("end_line", .int l.endLine),
  ("end_column", .int l.endColumn)]

/-- A node as a document. -/
def nodeDocument (n : GraphNode) : Document := .object [
  ("id", .text n.id), ("name", .text n.name), ("type", .text n.kind), ("file_path", .text n.file),
  ("location", locationDocument n.location), ("implementation", .text n.implementation)]

/-- An edge as a document. -/
def edgeDocument (e : GraphEdge) : Document := .object [
  ("source", .text e.source), ("target", .text e.target), ("type", .text e.kind), ("properties", .object e.properties)]

/-- The graph as a document. -/
def document (g : Graph) : Document := .object [
  ("nodes", .list (g.nodes.map nodeDocument)), ("edges", .list (g.edges.map edgeDocument))]

end Graph

end CodeAtlas
