import CodeAtlas.Dependency.Order
import CodeAtlas.Graph
import CodeAtlas.Text.Case

/-!
# Statements to a graph database

What the export asks of a database, as text with parameters. Rows are sent in batches; nodes are sent by label and edges by
type, in the order in which labels and types first occur.
-/

namespace CodeAtlas

/-- An index on a property of the nodes with a label. -/
structure PropertyIndex where
  name : String
  node : String
  label : String
  property : String
deriving Repr, DecidableEq

/-- A file that imports another one, and the place of that import among all imports of the file. -/
structure Link where
  source : String
  target : String
  position : Nat
deriving Repr, DecidableEq

/-- A statement. -/
inductive Statement where
  /-- Asks for the number one. -/
  | probe
  | createIndex (index : PropertyIndex)
  /-- Deletes everything. -/
  | deleteAll
  /-- Deletes what belongs to a repository. -/
  | deleteRepository (repository : String)
  | mergeNodes (label repository : String) (nodes : List GraphNode)
  | mergeEdges (type : String) (edges : List GraphEdge)
  | mergeFiles (repository : String) (files : List String)
  | mergeLinks (repository : String) (links : List Link)
  | countNodes
  | countEdges
deriving Repr

namespace Statement

/-- A text in braces. -/
def braced (text : String) : String := "\x7b" ++ text ++ "\x7d"

/-- The text of a statement, up to white space: a single blank stands for every line break with its indentation. -/
def text : Statement → String
  | probe => "RETURN 1 AS result"
  | createIndex i =>
    "CREATE INDEX " ++ i.name ++ " IF NOT EXISTS FOR (" ++ i.node ++ ":" ++ i.label ++ ") ON (" ++ i.node ++ "." ++
      i.property ++ ")"
  | deleteAll => "MATCH (n) DETACH DELETE n"
  | deleteRepository _ => "MATCH (n " ++ braced "repo_name: $repo_name" ++ ") DETACH DELETE n"
  | mergeNodes label _ _ =>
    "UNWIND $nodes AS node MERGE (n:CodeElement " ++ braced "id: node.id" ++ ") SET n:" ++ label ++
      " SET n += node.properties"
  | mergeEdges type _ =>
    "UNWIND $rels AS rel MATCH (source:CodeElement " ++ braced "id: rel.source_id" ++ ") MATCH (target:CodeElement " ++
      braced "id: rel.target_id" ++ ") MERGE (source)-[r:" ++ type ++ "]->(target) SET r += rel.properties"
  | mergeFiles _ _ => "UNWIND $files AS file MERGE (f:File " ++ braced "path: file.path, repo_name: $repo_name" ++ ")"
  | mergeLinks _ _ =>
    "UNWIND $links AS link MERGE (source:File " ++ braced "path: link.source, repo_name: $repo_name" ++
      ") MERGE (target:File " ++ braced "path: link.target, repo_name: $repo_name" ++
      ") MERGE (source)-[r:DEPENDS_ON]->(target) SET r.position = link.position"
  | countNodes => "MATCH (n) RETURN coalesce(n.type, labels(n)[0]) AS label, count(*) AS count"
  | countEdges => "MATCH ()-[r]->() RETURN type(r) AS type, count(*) AS count"

/-- The row of a node. -/
def nodeRow (repository : String) (n : GraphNode) : Document := .object [
  ("id", .text n.id),
  ("properties", .object [
    ("name", .text n.name), ("type", .text n.kind), ("file_path", .text n.file),
    ("start_line", .int n.location.startLine), ("start_column", .int n.location.startColumn),
    ("end_line", .int n.location.endLine), ("end_column", .int n.location.endColumn),
    ("implementation", .text n.implementation), ("repo_name", .text repository)])]

/-- The row of an edge. -/
def edgeRow (e : GraphEdge) : Document := .object [
  ("source_id", .text e.source), ("target_id", .text e.target), ("properties", .object e.properties)]

/-- The row of a link. -/
def linkRow (l : Link) : Document := .object [
  ("source", .text l.source), ("target", .text l.target), ("position", .nat l.position)]

/-- The parameters of a statement. -/
def params : Statement → List (String × Document)
  | probe | createIndex _ | deleteAll | countNodes | countEdges => []
  | deleteRepository repository => [("repo_name", .text repository)]
  | mergeNodes _ repository nodes => [("nodes", .list (nodes.map (nodeRow repository)))]
  | mergeEdges _ edges => [("rels", .list (edges.map edgeRow))]
  | mergeFiles repository files =>
    [("files", .list (files.map fun path => .object [("path", .text path)])), ("repo_name", .text repository)]
  | mergeLinks repository links => [("links", .list (links.map linkRow)), ("repo_name", .text repository)]

end Statement

/-! ## Statements of an export -/

/-- The indexes that the export relies on. -/
def PropertyIndex.all : List PropertyIndex := [
  ⟨"code_element_id", "n", "CodeElement", "id"⟩, ⟨"code_element_name", "n", "CodeElement", "name"⟩,
  ⟨"code_element_repo", "n", "CodeElement", "repo_name"⟩, ⟨"file_path", "f", "File", "path"⟩,
  ⟨"file_repo", "f", "File", "repo_name"⟩]

/-- The label of the nodes of a kind. -/
def ElementKind.label : ElementKind → String
  | classDef => "Class"
  | interfaceDef => "Interface"
  | functionDef => "Function"
  | methodDef => "Method"
  | variableDef => "Variable"
  | propertyDef => "Property"
  | typeDef => "Type"
  | enumDef => "Enum"
  | importDef => "Import"

/-- The label of a node; nodes of no known kind are entities. -/
def GraphNode.label (n : GraphNode) : String := ((ElementKind.ofName? n.kind).map (·.label)).getD "Entity"

/-- The type under which an edge is stored. -/
def GraphEdge.type (e : GraphEdge) : String := String.ofList (Text.upper e.kind.toList)

/-- Cuts a list into pieces of the given size; the last one may be shorter. -/
def batches {α : Type} (size : Nat) : List α → List (List α)
  | [] => []
  | a :: rest => (a :: rest.take (size - 1)) :: batches size (rest.drop (size - 1))
termination_by xs => xs.length
decreasing_by simp only [List.length_drop, List.length_cons]; omega

/-- The links of a dependency map. -/
def DependencyMap.links (m : DependencyMap) : List Link :=
  m.values.flatMap fun e => e.dependencies.zipIdx.map fun d => ⟨e.file, d.1, d.2⟩

namespace Statement

/-- The statements that store the nodes and edges of a graph. -/
def ofGraph (size : Nat) (repository : String) (g : Graph) : List Statement :=
  ((Table.group GraphNode.label g.nodes).entries.flatMap fun group =>
      (batches size group.2).map (mergeNodes group.1 repository)) ++
    (Table.group GraphEdge.type g.edges).entries.flatMap fun group => (batches size group.2).map (mergeEdges group.1)

/-- The statements that store a dependency map. -/
def ofDependencies (repository : String) (m : DependencyMap) : List Statement :=
  [mergeFiles repository m.keys, mergeLinks repository m.links]

/-- The statement that deletes a repository; without a name everything is deleted. -/
def clear (repository : String) : Statement := if repository = "" then deleteAll else deleteRepository repository

end Statement

end CodeAtlas
