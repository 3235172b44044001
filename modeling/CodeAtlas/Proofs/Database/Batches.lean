import CodeAtlas.Proofs.Database.Calls
import CodeAtlas.Proofs.Outcome
import CodeAtlas.Proofs.Rearrangement
import CodeAtlas.Proofs.Table

/-!
# The rows of a stored graph

A graph is stored by statements that hand over rows, nodes under the query of their label and edges under the query of the
type that they are stored under. Things under a name become batches of rows (`Writer.statements`): none is empty or too large
(`Writer.sized`), under each query they hand over the rows of exactly the things with its name, in their order
(`Writer.rowsUnder_statements`), and together the rows of all things, each once (`Writer.rows_perm`).

So what is stored does not depend on the size of the batches, and the counts that are returned are those of the rows that were
sent (`Wire.storeGraph_rows`). Edges are stored under their type in upper case: the batches of a type hold exactly the edges
of the kind that it stands for unless an edge is of a kind that differs from this one in case only.
-/

namespace CodeAtlas

/-! ## Batches -/

section Batches

variable {α : Type} {size : Nat}

theorem flatten_batches (size : Nat) (xs : List α) : (batches size xs).flatten = xs := by
  fun_induction batches size xs with
  | case1 => rfl
  | case2 a rest ih => rw [List.flatten_cons, ih, List.cons_append, List.take_append_drop]

theorem length_of_mem_batches (positive : 0 < size) {xs batch : List α} (mem : batch ∈ batches size xs) :
    0 < batch.length ∧ batch.length ≤ size := by
  fun_induction batches size xs with
  | case1 => cases mem
  | case2 a rest ih =>
    rcases List.mem_cons.mp mem with rfl | mem
    · rw [List.length_cons, List.length_take]
      omega
    · exact ih mem

end Batches

/-! ## Rows -/

namespace Statement

/-- The rows that a statement hands over. -/
def rows (s : Statement) : List Document :=
  match s.params with
  | (_, .list rows) :: _ => rows
  | _ => []

/-- The rows that statements with a text hand over, one after another. -/
def rowsUnder (query : String) (statements : List Statement) : List Document :=
  (statements.filter (·.text = query)).flatMap rows

theorem rowsUnder_append (query : String) (a b : List Statement) :
    rowsUnder query (a ++ b) = rowsUnder query a ++ rowsUnder query b := by
  rw [rowsUnder, List.filter_append, List.flatMap_append, rowsUnder, rowsUnder]

theorem rowsUnder_flatMap {α : Type} (query : String) (f : α → List Statement) (l : List α) :
    rowsUnder query (l.flatMap f) = l.flatMap fun a => rowsUnder query (f a) := by
  rw [rowsUnder, List.filter_flatMap, List.flatMap_assoc]
  rfl

/-- Statements that all have the text hand over their rows under it. -/
theorem rowsUnder_eq_flatMap {query : String} {statements : List Statement} (all : ∀ s ∈ statements, s.text = query) :
    rowsUnder query statements = statements.flatMap rows := by
  rw [rowsUnder, List.filter_eq_self.mpr fun s mem => decide_eq_true (all s mem)]

/-- Statements with other texts hand over nothing under a query. -/
theorem rowsUnder_eq_nil {query : String} {statements : List Statement} (others : ∀ s ∈ statements, s.text ≠ query) :
    rowsUnder query statements = [] := by
  have none : statements.filter (·.text = query) = [] :=
    List.filter_eq_nil_iff.mpr fun s mem same => others s mem (of_decide_eq_true same)
  rw [rowsUnder, none, List.flatMap_nil]

end Statement

/-- How things are written under a name: a statement whose text depends on the name only hands over a row for each. -/
structure Writer (γ : Type) where
  write : String → List γ → Statement
  query : String → String
  row : γ → Document
  text_write : ∀ name things, (write name things).text = query name
  rows_write : ∀ name things, (write name things).rows = things.map row
  query_injective : Function.Injective query

namespace Writer

variable {γ : Type} (w : Writer γ) (size : Nat) (name : γ → String) (things : List γ)

/-- The statements that write things under their names, in batches. -/
def statements : List Statement :=
  (Table.group name things).entries.flatMap fun group => (batches size group.2).map (w.write group.1)

variable {size name things}

theorem exists_of_mem_statements {s : Statement} (mem : s ∈ w.statements size name things) :
    ∃ key, ∃ batch ∈ batches size (things.filter (name · = key)), s = w.write key batch := by
  rw [statements, Table.entries_group] at mem
  obtain ⟨_, entry, mem⟩ := List.mem_flatMap.mp mem
  obtain ⟨key, -, rfl⟩ := List.mem_map.mp entry
  obtain ⟨batch, piece, rfl⟩ := List.mem_map.mp mem
  exact ⟨key, batch, piece, rfl⟩

theorem text_of_mem_statements {s : Statement} (mem : s ∈ w.statements size name things) : ∃ key, s.text = w.query key := by
  obtain ⟨key, batch, -, rfl⟩ := w.exists_of_mem_statements mem
  exact ⟨key, w.text_write key batch⟩

/-- No batch is empty or too large. -/
theorem sized (positive : 0 < size) {s : Statement} (mem : s ∈ w.statements size name things) :
    0 < s.rows.length ∧ s.rows.length ≤ size := by
  obtain ⟨key, batch, piece, rfl⟩ := w.exists_of_mem_statements mem
  rw [w.rows_write, List.length_map]
  exact length_of_mem_batches positive piece

/-- The batches of things hand over their rows. -/
theorem rows_batches (key : String) (part : List γ) :
    ((batches size part).map (w.write key)).flatMap Statement.rows = part.map w.row := by
  have rows : Statement.rows ∘ w.write key = List.map w.row := funext (w.rows_write key)
  rw [List.flatMap, List.map_map, rows, ← List.map_flatten, flatten_batches]

/-- The rows of all statements, name by name. -/
theorem rows_statements : (w.statements size name things).flatMap Statement.rows =
    (Table.group name things).keys.flatMap fun key => (things.filter (name · = key)).map w.row := by
  rw [statements, Table.entries_group, List.flatMap_map, List.flatMap_assoc]
  exact List.flatMap_congr fun key _ => w.rows_batches key _

/-- Every thing is written once. -/
theorem rows_perm : ((w.statements size name things).flatMap Statement.rows).Perm (things.map w.row) := by
  rw [rows_statements, ← List.map_flatMap]
  refine (List.flatMap_filter_perm (Table.group name things).distinct fun a mem => ?_).map w.row
  refine ⟨name a, Table.mem_keys_group.mpr ⟨a, mem, rfl⟩, fun key _ => ?_⟩
  rw [decide_eq_true_iff]
  exact eq_comm

/-- The batches of a name are written under its query and no other. -/
theorem rowsUnder_batches (key key' : String) (part : List γ) :
    Statement.rowsUnder (w.query key) ((batches size part).map (w.write key')) =
      if key' = key then part.map w.row else [] := by
  split
  · rename_i same
    rw [Statement.rowsUnder_eq_flatMap, rows_batches]
    rw [List.forall_mem_map]
    exact fun batch _ => same ▸ w.text_write key' batch
  · rename_i other
    refine Statement.rowsUnder_eq_nil ?_
    rw [List.forall_mem_map]
    exact fun batch _ same => other (w.query_injective ((w.text_write key' batch).symm.trans same))

/-- Under the query of a name the things with this name are written, in their order. -/
theorem rowsUnder_statements (size : Nat) (name : γ → String) (things : List γ) (key : String) :
    Statement.rowsUnder (w.query key) (w.statements size name things) = (things.filter (name · = key)).map w.row := by
  rw [statements, Table.entries_group, List.flatMap_map, Statement.rowsUnder_flatMap]
  simp only [rowsUnder_batches]
  have one : ∀ key' : String, (if key' = key then (things.filter (name · = key')).map w.row else []) =
      if decide (key' = key) then (things.filter (name · = key)).map w.row else [] := by
    intro key'
    by_cases same : key' = key <;> simp [same]
  simp only [one]
  by_cases known : key ∈ (Table.group name things).keys
  · exact List.flatMap_ite_of_unique (Table.group name things).distinct known (fun _ _ => decide_eq_true_iff) _
  · have absent : things.filter (name · = key) = [] :=
      List.filter_eq_nil_iff.mpr fun a mem same => known (Table.mem_keys_group.mpr ⟨a, mem, of_decide_eq_true same⟩)
    simp [absent]

end Writer

/-! ## The statements that store a graph -/

/-- The type under which edges of a kind are stored. -/
def RelationKind.type : RelationKind → String
  | contains => "CONTAINS"
  | calls => "CALLS"
  | inherits => "INHERITS"
  | implements => "IMPLEMENTS"
  | imports => "IMPORTS"
  | references => "REFERENCES"

theorem RelationKind.type_eq (kind : RelationKind) : String.ofList (Text.upper kind.name.toList) = kind.type := by
  cases kind <;> decide +kernel

theorem ElementKind.ofName?_eq_some_iff {text : String} {kind : ElementKind} : ofName? text = some kind ↔ text = kind.name := by
  refine ⟨fun found => ?_, fun same => same ▸ ofName?_name kind⟩
  have named := List.find?_some (show all.find? (·.name = text) = some kind from found)
  exact (of_decide_eq_true named).symm

theorem ElementKind.label_injective : Function.Injective ElementKind.label := by
  have table : ∀ a ∈ all, ∀ b ∈ all, a.label = b.label → a = b := by decide
  exact fun a b same => table a (mem_all a) b (mem_all b) same

theorem ElementKind.label_ne_entity (kind : ElementKind) : kind.label ≠ "Entity" := by cases kind <;> decide

theorem GraphNode.label_eq_iff (n : GraphNode) (kind : ElementKind) : n.label = kind.label ↔ n.kind = kind.name := by
  rw [← ElementKind.ofName?_eq_some_iff, label]
  cases ElementKind.ofName? n.kind with
  | none => exact iff_of_false (fun same => kind.label_ne_entity same.symm) (Option.some_ne_none kind).symm
  | some own =>
    rw [Option.some_inj]
    exact ⟨fun same => ElementKind.label_injective same, fun same => congrArg ElementKind.label same⟩

theorem GraphNode.label_eq_entity_iff (n : GraphNode) : n.label = "Entity" ↔ ElementKind.ofName? n.kind = none := by
  rw [label]
  cases ElementKind.ofName? n.kind with
  | none => exact iff_of_true rfl rfl
  | some own => exact iff_of_false own.label_ne_entity (Option.some_ne_none own)

namespace Statement

/-- The text of the statements that store nodes with a label. -/
def nodeQuery (label : String) : String := (mergeNodes label "" []).text

/-- The text of the statements that store edges under a type. -/
def edgeQuery (type : String) : String := (mergeEdges type []).text

/-- Nodes are written under their label. -/
def nodeWriter (repository : String) : Writer GraphNode where
  write label := mergeNodes label repository
  query := nodeQuery
  row := nodeRow repository
  text_write _ _ := rfl
  rows_write _ _ := rfl
  query_injective _ _ same := (String.append_right_inj _).mp ((String.append_left_inj _).mp same)

/-- Edges are written under their type. -/
def edgeWriter : Writer GraphEdge where
  write := mergeEdges
  query := edgeQuery
  row := edgeRow
  text_write _ _ := rfl
  rows_write _ _ := rfl
  query_injective _ _ same := (String.append_right_inj _).mp ((String.append_left_inj _).mp same)

/-- Nodes and edges are written by different statements: their texts say what is written. -/
theorem nodeQuery_ne_edgeQuery (label type : String) : nodeQuery label ≠ edgeQuery type := by
  intro same
  have nodes : ∃ rest, (nodeQuery label).toList = "UNWIND $n".toList ++ rest := by
    unfold nodeQuery text
    simp only [String.toList_append, List.append_assoc, String.reduceToList, List.cons_append]
    exact ⟨_, rfl⟩
  have edges : ∃ rest, (edgeQuery type).toList = "UNWIND $r".toList ++ rest := by
    unfold edgeQuery text
    simp only [String.toList_append, List.append_assoc, String.reduceToList, List.cons_append]
    exact ⟨_, rfl⟩
  obtain ⟨rest, nodes⟩ := nodes
  obtain ⟨rest', edges⟩ := edges
  rw [same, edges] at nodes
  simp at nodes

/-- The statements for nodes and for edges lose and repeat nothing of a graph: in batches of at most the given size they hand
over all its nodes and all its edges, and in the order of the graph the nodes of each kind under its label and the edges of
each type under this type. -/
structure Store (size : Int) (repository : String) (g : Graph) (nodes edges : List Statement) : Prop where
  nodeQueries : ∀ s ∈ nodes, ∃ label, s.text = nodeQuery label
  edgeQueries : ∀ s ∈ edges, ∃ type, s.text = edgeQuery type
  sized : ∀ s ∈ nodes ++ edges, 0 < s.rows.length ∧ s.rows.length ≤ size
  ofKind : ∀ kind : ElementKind, rowsUnder (nodeQuery kind.label) (nodes ++ edges) =
    (g.nodes.filter (·.kind = kind.name)).map (nodeRow repository)
  /-- Nodes of no known kind are stored as entities. -/
  ofNoKind : rowsUnder (nodeQuery "Entity") (nodes ++ edges) =
    (g.nodes.filter fun n => ElementKind.ofName? n.kind = none).map (nodeRow repository)
  ofType : ∀ type, rowsUnder (edgeQuery type) (nodes ++ edges) = (g.edges.filter (·.type = type)).map edgeRow
  /-- Unless edges of another kind have the type of a kind, exactly the edges of this kind are stored under it. -/
  ofRelation : ∀ kind : RelationKind, (∀ e ∈ g.edges, e.type = kind.type → e.kind = kind.name) →
    rowsUnder (edgeQuery kind.type) (nodes ++ edges) = (g.edges.filter (·.kind = kind.name)).map edgeRow
  allNodes : (nodes.flatMap rows).Perm (g.nodes.map (nodeRow repository))
  allEdges : (edges.flatMap rows).Perm (g.edges.map edgeRow)

variable {size : Nat} {repository : String} {g : Graph}

/-- Under the query of a label the nodes with this label are stored. -/
theorem rowsUnder_nodeQuery (label : String) : rowsUnder (nodeQuery label) (ofGraph size repository g) =
    (g.nodes.filter (·.label = label)).map (nodeRow repository) := by
  have edges : rowsUnder (nodeQuery label) (edgeWriter.statements size GraphEdge.type g.edges) = [] := by
    refine rowsUnder_eq_nil fun s mem same => ?_
    obtain ⟨type, text⟩ := edgeWriter.text_of_mem_statements mem
    exact nodeQuery_ne_edgeQuery label type (same.symm.trans text)
  have nodes := (nodeWriter repository).rowsUnder_statements size GraphNode.label g.nodes label
  refine (rowsUnder_append _ _ _).trans ?_
  exact (congrArg₂ (· ++ ·) nodes edges).trans (List.append_nil _)

/-- Under the query of a type the edges with this type are stored. -/
theorem rowsUnder_edgeQuery (type : String) : rowsUnder (edgeQuery type) (ofGraph size repository g) =
    (g.edges.filter (·.type = type)).map edgeRow := by
  have nodes : rowsUnder (edgeQuery type) ((nodeWriter repository).statements size GraphNode.label g.nodes) = [] := by
    refine rowsUnder_eq_nil fun s mem same => ?_
    obtain ⟨label, text⟩ := (nodeWriter repository).text_of_mem_statements mem
    exact nodeQuery_ne_edgeQuery label type (text.symm.trans same)
  have edges := edgeWriter.rowsUnder_statements size GraphEdge.type g.edges type
  refine (rowsUnder_append _ _ _).trans ?_
  exact (congrArg₂ (· ++ ·) nodes edges).trans (List.nil_append _)

/-- What an export sends for a graph stores it. -/
theorem store_ofGraph (positive : 0 < size) : Store size repository g
    ((nodeWriter repository).statements size GraphNode.label g.nodes)
    (edgeWriter.statements size GraphEdge.type g.edges) where
  nodeQueries _ mem := (nodeWriter repository).text_of_mem_statements mem
  edgeQueries _ mem := edgeWriter.text_of_mem_statements mem
  sized s mem := by
    rw [Int.ofNat_le]
    rcases List.mem_append.mp mem with mem | mem
    · exact (nodeWriter repository).sized positive mem
    · exact edgeWriter.sized positive mem
  ofKind kind := by
    refine (rowsUnder_nodeQuery kind.label).trans ?_
    simp only [GraphNode.label_eq_iff]
  ofNoKind := by
    refine (rowsUnder_nodeQuery "Entity").trans ?_
    simp only [GraphNode.label_eq_entity_iff]
  ofType := rowsUnder_edgeQuery
  ofRelation kind only := by
    refine (rowsUnder_edgeQuery kind.type).trans (congrArg _ (List.filter_congr fun e mem => ?_))
    rw [decide_eq_decide]
    refine ⟨only e mem, fun same => ?_⟩
    rw [GraphEdge.type, same, kind.type_eq]
  allNodes := (nodeWriter repository).rows_perm
  allEdges := edgeWriter.rows_perm

end Statement

namespace Wire

open Statement

/-- The statements that store a graph are sent up to the first that fails. If none does, all is well. -/
theorem storeGraph_sent (w : Wire) {size : Int} (positive : 1 ≤ size) (repository : String) (g : Graph) : ∃ sent,
    SentUntil w.failsAt (ofGraph size.toNat repository g) sent ∧
      (w.storeGraph size repository g).1.calls = w.calls ++ sent.map .run ∧
      ((∀ i < (ofGraph size.toNat repository g).length, w.failsAt i = false) →
        (w.storeGraph size repository g).2 = .ok ⟨g.nodes.length, g.edges.length⟩) ∧
      ∀ counts, (w.storeGraph size repository g).2 = .ok counts →
        sent = ofGraph size.toNat repository g ∧ counts = ⟨g.nodes.length, g.edges.length⟩ := by
  obtain ⟨sent, stops, calls, done⟩ := w.runAll_sent (ofGraph size.toNat repository g)
  unfold storeGraph
  rw [if_neg (by omega)]
  refine ⟨sent, stops, calls, fun passed => ?_, fun counts ok => ?_⟩
  · obtain ⟨_, ran, -⟩ := Except.Gives.of_isOk (done.mpr passed)
    exact congrArg (Except.map _) ran
  · obtain ⟨_, ran, rfl⟩ := Except.map_eq_ok_iff.mp ok
    exact ⟨stops.eq_of_passed (done.mp (by rw [ran]; rfl)), rfl⟩

/-- With batches of one row or more, the statements that store a graph are first those for its nodes, then those for its
edges, and lose and repeat nothing. They are sent up to the first that fails. If none does, the counts of the rows of nodes
and of edges that were sent are returned, and they are returned only then. -/
theorem storeGraph_rows (w : Wire) {size : Int} (positive : 1 ≤ size) (repository : String) (g : Graph) :
    ∃ nodes edges sent, Store size repository g nodes edges ∧ SentUntil w.failsAt (nodes ++ edges) sent ∧
      (w.storeGraph size repository g).1.calls = w.calls ++ sent.map .run ∧
      ((∀ i < (nodes ++ edges).length, w.failsAt i = false) →
        (w.storeGraph size repository g).2.isOk = true) ∧
      ∀ counts, (w.storeGraph size repository g).2 = .ok counts → sent = nodes ++ edges ∧
        counts.nodes = (nodes.flatMap rows).length ∧ counts.edges = (edges.flatMap rows).length := by
  have store : Store size.toNat repository g _ _ := store_ofGraph (by omega)
  rw [Int.toNat_of_nonneg (by omega)] at store
  obtain ⟨sent, stops, calls, well, done⟩ := w.storeGraph_sent positive repository g
  refine ⟨_, _, sent, store, stops, calls, fun passed => ?_, fun counts ok => ?_⟩
  · rw [well passed]
    rfl
  · obtain ⟨all, rfl⟩ := done counts ok
    refine ⟨all, ?_, ?_⟩
    · rw [store.allNodes.length_eq, List.length_map]
    · rw [store.allEdges.length_eq, List.length_map]

namespace Sample

/-- A database that answers every statement. -/
def well : Wire := ⟨none, [], []⟩

/-- Three functions; the first calls the second one, which is said twice, once in another spelling. -/
def spellings : Graph where
  nodes := [node "f", node "g", node "h"]
  edges := [⟨"f", "g", "calls", []⟩, ⟨"f", "g", "Calls", [("weight", .nat 1)]⟩]
where
  /-- A function with an id. -/
  node (id : String) : GraphNode := ⟨id, id, "function", "a.py", ⟨1, 0, 1, 0⟩, ""⟩

end Sample

open Sample

/-- In batches of two rows the three functions are stored in their order. -/
theorem sample_rows : ∃ sent, (well.storeGraph 2 "demo" spellings).1.calls = sent.map .run ∧
    rowsUnder (nodeQuery "Function") sent = spellings.nodes.map (nodeRow "demo") ∧ ∀ s ∈ sent, s.rows.length ≤ 2 := by
  obtain ⟨nodes, edges, sent, store, stops, calls, -⟩ :=
    storeGraph_rows well (show 1 ≤ (2 : Int) by decide) "demo" spellings
  obtain rfl := stops.eq_of_passed fun i _ => rfl
  refine ⟨_, calls, store.ofKind .functionDef, fun s mem => ?_⟩
  exact Int.ofNat_le.mp (store.sized s mem).2

/-- Batches of the type of a kind may hold edges of another kind: one that differs from it in case only. -/
theorem sample_spellings : 1 ≤ (1000 : Int) ∧
    rowsUnder (edgeQuery "CALLS") (statementsOf (well.storeGraph 1000 "demo" spellings).1.calls) ≠
      (spellings.edges.filter (·.kind = RelationKind.calls.name)).map edgeRow := by
  obtain ⟨sent, stops, calls, -⟩ := well.storeGraph_sent (show 1 ≤ (1000 : Int) by decide) "demo" spellings
  obtain rfl := stops.eq_of_passed fun i _ => rfl
  refine ⟨by decide, fun same => ?_⟩
  rw [calls, statementsOf_append, statementsOf_map_run] at same
  have rows := congrArg List.length ((rowsUnder_edgeQuery "CALLS").symm.trans same)
  rw [List.length_map, List.length_map] at rows
  exact absurd rows (by decide +kernel)

end Wire

end CodeAtlas
