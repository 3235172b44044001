import CodeAtlas.Graph.Search
import CodeAtlas.Proofs.Rearrangement

/-!
# The relations of all files

In a graph that was built from elements with distinct ids, every node and every edge belongs to one file: a node to the file
that it names, an edge to the file of the node that it starts at. So the relations of all files together list every node and
every edge once, and among the edges that arrive from other files just those that join two files (`relationsOf_partition`).
-/

namespace CodeAtlas.Graph

/-- The ids of the nodes of a file. -/
def idsOf (g : Graph) (file : String) : List String := (g.nodes.filter fun n => n.file = file).map (·.id)

/-- The edge leads from a node of one file to a node of another file. -/
def Crosses (g : Graph) (e : GraphEdge) : Prop :=
  ∃ source ∈ g.nodes, ∃ target ∈ g.nodes, source.id = e.source ∧ target.id = e.target ∧ source.file ≠ target.file

instance (g : Graph) : DecidablePred g.Crosses := fun _ => List.decidableBEx _ _

variable {g : Graph}

theorem relationsOf_outgoing (file : String) :
    (g.relationsOf file).outgoing = g.edges.filter fun e => e.source ∈ g.idsOf file :=
  List.filter_congr fun e _ => by rw [Bool.eq_iff_iff, List.contains_iff_mem, decide_eq_true_iff, idsOf]

theorem relationsOf_incoming (file : String) :
    (g.relationsOf file).incoming = g.edges.filter fun e => e.target ∈ g.idsOf file ∧ e.source ∉ g.idsOf file :=
  List.filter_congr fun e _ => by
    rw [Bool.eq_iff_iff, Bool.and_eq_true, List.contains_iff_mem, Bool.not_eq_true', Bool.eq_false_iff, Ne,
      List.contains_iff_mem, decide_eq_true_iff, idsOf]

/-- Where ids are distinct, the id of a node is one of its own file and of no other. -/
theorem mem_idsOf (distinct : g.nodeIds.Nodup) {n : GraphNode} (mem : n ∈ g.nodes) (file : String) :
    n.id ∈ g.idsOf file ↔ file = n.file := by
  rw [idsOf, List.mem_map]
  constructor
  · rintro ⟨n', listed, same⟩
    obtain ⟨mem', here⟩ := List.mem_filter.mp listed
    obtain rfl := List.inj_on_of_nodup_map distinct mem' mem same
    exact (of_decide_eq_true here).symm
  · rintro rfl
    exact ⟨n, List.mem_filter.mpr ⟨mem, decide_eq_true rfl⟩, rfl⟩

/-- Every edge of the graph leads from a node to a node. -/
def IsJoined (g : Graph) : Prop :=
  ∀ e ∈ g.edges, ∃ source ∈ g.nodes, ∃ target ∈ g.nodes, source.id = e.source ∧ target.id = e.target

theorem isJoined_build (elements : List Element) (relations : List Relation) : (build elements relations).IsJoined := by
  intro e mem
  obtain ⟨rel, kept, rfl⟩ := List.mem_map.mp mem
  rw [splitRelations, List.partition_eq_filter_filter] at kept
  have ends := (List.mem_filter.mp kept).2
  rw [Bool.and_eq_true, List.contains_iff_mem, List.contains_iff_mem, List.mem_map, List.mem_map] at ends
  obtain ⟨⟨source, hs, starts⟩, target, ht, stops⟩ := ends
  exact ⟨nodeOf source, List.mem_map_of_mem hs, nodeOf target, List.mem_map_of_mem ht, starts, stops⟩

/-! ## The parts of a graph -/

section Parts

variable (distinct : g.nodeIds.Nodup)
include distinct

/-- Where ids are distinct, an edge crosses files if its two nodes stand in different ones. -/
theorem crosses_iff {e : GraphEdge} {source target : GraphNode} (hs : source ∈ g.nodes) (ht : target ∈ g.nodes)
    (starts : source.id = e.source) (stops : target.id = e.target) : g.Crosses e ↔ source.file ≠ target.file := by
  refine ⟨?_, fun apart => ⟨source, hs, target, ht, starts, stops, apart⟩⟩
  rintro ⟨source', hs', target', ht', starts', stops', apart⟩
  obtain rfl := List.inj_on_of_nodup_map distinct hs' hs (starts'.trans starts.symm)
  obtain rfl := List.inj_on_of_nodup_map distinct ht' ht (stops'.trans stops.symm)
  exact apart

/-- An edge leaves the file of the node that it starts at, and no other file. -/
theorem mem_outgoing {e : GraphEdge} (mem : e ∈ g.edges) {source : GraphNode} (hs : source ∈ g.nodes)
    (starts : source.id = e.source) (file : String) : e ∈ (g.relationsOf file).outgoing ↔ file = source.file := by
  rw [relationsOf_outgoing, List.mem_filter, decide_eq_true_iff, ← starts, mem_idsOf distinct hs]
  exact and_iff_right mem

/-- Of the edges that arrive in a file, those that start in it do not cross files. -/
theorem relationsOf_incoming_eq (joined : g.IsJoined) (file : String) :
    (g.relationsOf file).incoming = (g.edges.filter g.Crosses).filter fun e => e.target ∈ g.idsOf file := by
  rw [relationsOf_incoming, List.filter_filter]
  refine List.filter_congr fun e mem => ?_
  obtain ⟨source, hs, target, ht, starts, stops⟩ := joined e mem
  rw [Bool.eq_iff_iff, Bool.and_eq_true, decide_eq_true_iff, decide_eq_true_iff, decide_eq_true_iff,
    crosses_iff distinct hs ht starts stops, ← starts, ← stops, mem_idsOf distinct hs, mem_idsOf distinct ht]
  refine and_congr_right fun arrives => ?_
  rw [arrives]
  exact not_congr eq_comm

end Parts

section Partition

variable {files : List String} (once : files.Nodup) (listed : ∀ file, file ∈ files ↔ ∃ n ∈ g.nodes, n.file = file)
include once listed

/-- Every node is one of its own file. -/
theorem nodes_perm : (files.flatMap fun file => (g.relationsOf file).nodes).Perm g.nodes := by
  refine List.flatMap_filter_perm once fun n mem => ⟨n.file, (listed n.file).mpr ⟨n, mem, rfl⟩, fun file _ => ?_⟩
  rw [decide_eq_true_iff]
  exact eq_comm

/-- Every edge leaves one of the files. -/
theorem outgoing_perm (distinct : g.nodeIds.Nodup) (joined : g.IsJoined) :
    (files.flatMap fun file => (g.relationsOf file).outgoing).Perm g.edges := by
  simp only [relationsOf_outgoing]
  refine List.flatMap_filter_perm once fun e mem => ?_
  obtain ⟨source, hs, -, -, starts, -⟩ := joined e mem
  refine ⟨source.file, (listed _).mpr ⟨source, hs, rfl⟩, fun file _ => ?_⟩
  rw [decide_eq_true_iff, ← starts, mem_idsOf distinct hs]

/-- Every edge that crosses files arrives in one of them from another one. -/
theorem incoming_perm (distinct : g.nodeIds.Nodup) (joined : g.IsJoined) :
    (files.flatMap fun file => (g.relationsOf file).incoming).Perm (g.edges.filter g.Crosses) := by
  simp only [relationsOf_incoming_eq distinct joined]
  refine List.flatMap_filter_perm once fun e mem => ?_
  obtain ⟨-, -, target, ht, -, stops⟩ := joined e (List.mem_of_mem_filter mem)
  refine ⟨target.file, (listed _).mpr ⟨target, ht, rfl⟩, fun file _ => ?_⟩
  rw [decide_eq_true_iff, ← stops, mem_idsOf distinct ht]

end Partition

/-- In a graph that was built from elements with distinct ids, the relations of all files that its nodes name are together
all nodes, all edges, each leaving one file, and as arriving edges those that join nodes of different files. -/
theorem relationsOf_partition (elements : List Element) (relations : List Relation)
    (distinct : (elements.map (·.id)).Nodup) {files : List String} (once : files.Nodup)
    (listed : ∀ file, file ∈ files ↔ ∃ n ∈ (build elements relations).nodes, n.file = file) :
    let g := build elements relations
    (files.flatMap fun file => (g.relationsOf file).nodes).Perm g.nodes ∧
      (files.flatMap fun file => (g.relationsOf file).outgoing).Perm g.edges ∧
      (∀ e ∈ g.edges, ∃! file, e ∈ (g.relationsOf file).outgoing) ∧
      (files.flatMap fun file => (g.relationsOf file).incoming).Perm (g.edges.filter g.Crosses) := by
  intro g
  have joined : g.IsJoined := isJoined_build elements relations
  have distinct : g.nodeIds.Nodup := by rwa [nodeIds_build]
  refine ⟨nodes_perm once listed, outgoing_perm once listed distinct joined, fun e mem => ?_,
    incoming_perm once listed distinct joined⟩
  obtain ⟨source, hs, -, -, starts, -⟩ := joined e mem
  refine ⟨source.file, (mem_outgoing distinct mem hs starts _).mpr rfl, fun file leaves => ?_⟩
  exact (mem_outgoing distinct mem hs starts file).mp leaves

/-! ## Two files -/

namespace Sample

/-- A function of a file, named by its id. -/
def function (id file : String) : Element := ⟨id, id, .functionDef, file, ⟨1, 0, 1, 0⟩, ""⟩

/-- Two functions in one file and one in another. -/
def functions : List Element := [function "f" "a.py", function "h" "b.py", function "g" "a.py"]

/-- A call inside a file, a recursive call, a call into the other file, and one of a function that is not there. -/
def calls : List Relation := [⟨"f", "g", .calls⟩, ⟨"h", "h", .calls⟩, ⟨"f", "h", .calls⟩, ⟨"g", "x", .calls⟩]

/-- The nodes of the functions name two files. -/
theorem mem_files (file : String) :
    file ∈ ["a.py", "b.py"] ↔ ∃ n ∈ (build functions calls).nodes, n.file = file := by
  simp only [build, functions, List.map_cons, List.map_nil, List.mem_cons, List.not_mem_nil, exists_eq_or_imp]
  simp only [nodeOf, function, false_and, exists_false, or_false]
  rw [@eq_comm _ file, @eq_comm _ file]
  tauto

end Sample

/-- Three of the four calls are edges; each leaves one of the two files, and one of them arrives from the other file. -/
theorem sample_partition :
    let g := build Sample.functions Sample.calls
    g.edges.length = 3 ∧ (["a.py", "b.py"].flatMap fun file => (g.relationsOf file).outgoing).Perm g.edges ∧
      (["a.py", "b.py"].flatMap fun file => (g.relationsOf file).incoming).Perm [edgeOf ⟨"f", "h", .calls⟩] := by
  obtain ⟨-, outgoing, -, incoming⟩ :=
    relationsOf_partition Sample.functions Sample.calls (by decide) (by decide) Sample.mem_files
  exact ⟨rfl, outgoing, incoming⟩

end CodeAtlas.Graph
