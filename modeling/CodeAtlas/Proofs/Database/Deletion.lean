import CodeAtlas.Proofs.Database.Calls
import CodeAtlas.Proofs.Table

/-!
# What an export deletes

A statement deletes something if the word for it occurs in its text. Of the statements of an export only the one that
clears a repository does (`deletes_of_mem_writes`); labels and types of edges are written into the others, but they are
taken from fixed lists. That statement names the repository whose data it deletes, unless the name is empty: then it deletes
everything. So an export is restricted to its repository except if it clears one without a name (`restricted_iff`).
-/

namespace CodeAtlas

namespace Statement

/-- The word for deleting occurs in the text. -/
def deletes (s : Statement) : Bool := Text.occursIn "DELETE".toList s.text.toList

/-- Everything that the statements delete carries the name, which is given as a parameter. -/
def RestrictedTo (repository : String) (statements : List Statement) : Prop :=
  ∀ s ∈ statements, s.deletes = true →
    s.text = "MATCH (n \x7brepo_name: $repo_name\x7d) DETACH DELETE n" ∧ s.params = [("repo_name", .text repository)]

theorem text_deleteRepository (repository : String) :
    (deleteRepository repository).text = "MATCH (n \x7brepo_name: $repo_name\x7d) DETACH DELETE n" := by
  show "MATCH (n " ++ braced "repo_name: $repo_name" ++ ") DETACH DELETE n" = _
  decide +kernel

/-- A name that is not empty restricts what is cleared to its repository. -/
theorem clear_restricted {repository : String} (named : repository ≠ "") :
    (clear repository).text = "MATCH (n \x7brepo_name: $repo_name\x7d) DETACH DELETE n" ∧
      (clear repository).params = [("repo_name", .text repository)] := by
  rw [clear, if_neg named]
  exact ⟨text_deleteRepository repository, rfl⟩

/-- Without a name everything is cleared. -/
theorem clear_unrestricted : (clear "").deletes = true ∧
    (clear "").text ≠ "MATCH (n \x7brepo_name: $repo_name\x7d) DETACH DELETE n" := by
  rw [clear, if_pos rfl]
  unfold deletes text
  decide +kernel

/-! ## The other statements -/

theorem probe_deletes : probe.deletes = false := by
  unfold deletes text
  simp only [String.reduceToList]
  decide +kernel

theorem createIndex_deletes {index : PropertyIndex} (known : index ∈ PropertyIndex.all) :
    (createIndex index).deletes = false := by
  unfold deletes text
  simp only [String.toList_append, String.reduceToList]
  revert index
  decide +kernel

theorem mergeNodes_deletes {label : String} (known : label ∈ "Entity" :: ElementKind.all.map (·.label))
    (repository : String) (nodes : List GraphNode) : (mergeNodes label repository nodes).deletes = false := by
  unfold deletes text braced
  simp only [String.toList_append, String.reduceToList]
  revert label
  decide +kernel

theorem mergeEdges_deletes (kind : RelationKind) (edges : List GraphEdge) :
    (mergeEdges (String.ofList (Text.upper kind.name.toList)) edges).deletes = false := by
  unfold deletes text braced
  simp only [String.toList_append, String.reduceToList, String.toList_ofList]
  cases kind <;> decide +kernel

theorem mergeFiles_deletes (repository : String) (files : List String) :
    (mergeFiles repository files).deletes = false := by
  unfold deletes text braced
  simp only [String.toList_append, String.reduceToList]
  decide +kernel

theorem mergeLinks_deletes (repository : String) (links : List Link) :
    (mergeLinks repository links).deletes = false := by
  unfold deletes text braced
  simp only [String.toList_append, String.reduceToList]
  decide +kernel

/-- Nodes have labels from a fixed list. -/
theorem label_mem (n : GraphNode) : n.label ∈ "Entity" :: ElementKind.all.map (·.label) := by
  unfold GraphNode.label
  cases ElementKind.ofName? n.kind with
  | none => exact List.mem_cons_self
  | some kind => exact List.mem_cons_of_mem _ (List.mem_map_of_mem (ElementKind.mem_all kind))

end Statement

/-- Every edge is of a kind that relations have. -/
def Graph.HasKinds (g : Graph) : Prop := ∀ e ∈ g.edges, ∃ kind : RelationKind, e.kind = kind.name

namespace Statement

/-- Storing a graph deletes nothing. -/
theorem ofGraph_deletes {g : Graph} (kinds : g.HasKinds) {size : Nat} {repository : String} {s : Statement}
    (mem : s ∈ ofGraph size repository g) : s.deletes = false := by
  rcases List.mem_append.mp mem with mem | mem
  · obtain ⟨⟨label, nodes⟩, group, mem⟩ := List.mem_flatMap.mp mem
    obtain ⟨batch, -, rfl⟩ := List.mem_map.mp mem
    obtain ⟨n, -, rfl⟩ := Table.mem_keys_group.mp (List.mem_map_of_mem group)
    exact mergeNodes_deletes (label_mem n) repository batch
  · obtain ⟨⟨type, edges⟩, group, mem⟩ := List.mem_flatMap.mp mem
    obtain ⟨batch, -, rfl⟩ := List.mem_map.mp mem
    obtain ⟨e, known, rfl⟩ := Table.mem_keys_group.mp (List.mem_map_of_mem group)
    obtain ⟨kind, same⟩ := kinds e known
    rw [GraphEdge.type, same]
    exact mergeEdges_deletes kind batch

end Statement

namespace Export

variable {x : Export}

/-- Only clearing deletes something. -/
theorem deletes_of_mem_writes (kinds : x.graph.HasKinds) {s : Statement} (mem : s ∈ x.writes) (deletes : s.deletes = true) :
    x.clear = true ∧ s = .clear x.repository := by
  simp only [writes, List.mem_append] at mem
  rcases mem with (mem | mem) | mem
  · split at mem
    · rename_i clears
      exact ⟨clears, List.mem_singleton.mp mem⟩
    · cases mem
  · rw [Statement.ofGraph_deletes kinds mem] at deletes
    cases deletes
  · simp only [Statement.ofDependencies, List.mem_cons, List.not_mem_nil, or_false] at mem
    rcases mem with rfl | rfl
    · rw [Statement.mergeFiles_deletes] at deletes
      cases deletes
    · rw [Statement.mergeLinks_deletes] at deletes
      cases deletes

/-- An export deletes nothing but what carries the name of its repository, unless it clears a repository without a name in
a database that is ready. -/
theorem restricted_iff (kinds : x.graph.HasKinds) (c : Credentials) (w : Wire) :
    ∃ calls, (x.send c w).1.calls = w.calls ++ calls ∧
      (Statement.RestrictedTo x.repository (statementsOf calls) ↔
        ¬ (x.repository = "" ∧ x.clear = true ∧ w.isReady = true)) := by
  obtain ⟨calls, sent, shape⟩ := x.send_calls c w
  refine ⟨calls, sent, ?_⟩
  rcases shape with ⟨ready, probed⟩ | ⟨ready, written, within, first, statements⟩
  · refine iff_of_true (fun s mem deletes => ?_) (by simp [ready])
    rw [List.mem_singleton.mp (probed mem), Statement.probe_deletes] at deletes
    cases deletes
  · rw [statements]
    constructor
    · rintro restricted ⟨unnamed, clears, -⟩
      -- the first write clears, and it is sent whether it fails or not
      have cleared : Statement.clear "" ∈ written := by
        refine List.mem_of_head? ?_
        rw [first, writes, clears, unnamed]
        rfl
      obtain ⟨deletes, other⟩ := Statement.clear_unrestricted
      exact other (restricted _ (List.mem_append_right _ cleared) deletes).1
    · intro named s mem deletes
      rcases List.mem_append.mp mem with mem | mem
      · rcases List.mem_cons.mp mem with rfl | mem
        · rw [Statement.probe_deletes] at deletes
          cases deletes
        · obtain ⟨index, known, rfl⟩ := List.mem_map.mp mem
          rw [Statement.createIndex_deletes known] at deletes
          cases deletes
      · obtain ⟨clears, rfl⟩ := deletes_of_mem_writes kinds (within.subset mem) deletes
        exact Statement.clear_restricted fun unnamed => named ⟨unnamed, clears, ready⟩

end Export

end CodeAtlas
