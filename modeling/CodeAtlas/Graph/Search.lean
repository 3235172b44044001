import CodeAtlas.Graph
import CodeAtlas.Text.Blank
import CodeAtlas.Text.Case
import CodeAtlas.Text.Split

/-!
# Questions to a graph

Search by name: a node is found if its name holds the query, cases apart; nodes whose whole name is the query come first,
then files in path order, then the order of the graph. And the relations of a file: its nodes, the edges that leave them,
and the edges that arrive from other files.
-/

namespace CodeAtlas

/-- A node found by a search. -/
structure Hit where
  node : GraphNode
  /-- The whole name is the query. -/
  exact : Bool
  edges : List GraphEdge
deriving Repr

/-- Why a search is refused. -/
inductive SearchError where
  | negativeLimit (limit : Int)
deriving Repr, DecidableEq

/-- What the error says. -/
def SearchError.message : SearchError → String
  | negativeLimit limit => "max_results must be non-negative, got " ++ toString limit

/-- The nodes of a file and the edges that touch them. -/
structure FileRelations where
  file : String
  nodes : List GraphNode
  outgoing : List GraphEdge
  incoming : List GraphEdge
deriving Repr

namespace Graph

/-- The node, if its name holds the query; `needle` is the query in lower case. -/
def hit? (needle : List Char) (n : GraphNode) : Option Hit :=
  let name := Text.lower n.name.toList
  if Text.occursIn needle name then some ⟨n, name = needle, []⟩ else none

/-- The order of hits: whole names first, then file paths. -/
def ranksBefore (a b : Hit) : Bool :=
  if a.exact = b.exact then Text.precedes a.node.file b.node.file else a.exact

/-- All nodes that a query finds, best first. -/
def rankedHits (g : Graph) (query : String) : List Hit :=
  if Text.hasInk query.toList then
    (g.nodes.filterMap (hit? (Text.lower query.toList))).mergeSort ranksBefore
  else []

/-- The edges that start or end at a node. -/
def edgesAt (g : Graph) (id : String) : List GraphEdge := g.edges.filter fun e => e.source = id || e.target = id

/-- The first `n` of a list, all of it without a limit. -/
def limited {α : Type} (limit : Option Int) (xs : List α) : List α := limit.elim xs fun n => xs.take n.toNat

/-- The best hits of a query, with their edges if these are wanted. -/
def bestHits (g : Graph) (query : String) (limit : Option Int) (withEdges : Bool) : List Hit :=
  (limited limit (g.rankedHits query)).map fun h => { h with edges := if withEdges then g.edgesAt h.node.id else [] }

/-- The nodes that a query finds, up to a limit, with their edges if these are wanted. -/
def search (g : Graph) (query : String) (limit : Option Int) (withEdges : Bool) : Except SearchError (List Hit) :=
  match limit with
  | some n => if n < 0 then .error (.negativeLimit n) else .ok (g.bestHits query (some n) withEdges)
  | none => .ok (g.bestHits query none withEdges)

/-- The relations of a file. -/
def relationsOf (g : Graph) (file : String) : FileRelations :=
  let nodes := g.nodes.filter fun n => n.file = file
  let ids := nodes.map (·.id)
  { file := file
    nodes := nodes
    outgoing := g.edges.filter fun e => ids.contains e.source
    incoming := g.edges.filter fun e => ids.contains e.target && !ids.contains e.source }

end Graph

/-- How a hit is described. -/
def Hit.kind (h : Hit) : String := if h.exact then "exact" else "partial"

/-- A hit as a document. -/
def Hit.document (h : Hit) : Document := .object [
  ("node", Graph.nodeDocument h.node), ("match_type", .text h.kind), ("edges", .list (h.edges.map Graph.edgeDocument))]

/-- The fields of the relations of a file. -/
def FileRelations.fields (r : FileRelations) : List (String × Document) := [
  ("file_path", .text r.file), ("nodes", .list (r.nodes.map Graph.nodeDocument)),
  ("outgoing", .list (r.outgoing.map Graph.edgeDocument)), ("incoming", .list (r.incoming.map Graph.edgeDocument))]

end CodeAtlas
