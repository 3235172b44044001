import CodeAtlas.Proofs.Analyzer.History
import CodeAtlas.Proofs.Grounded
import CodeAtlas.Proofs.Run.Resolution
import Mathlib.Data.List.Nodup

/-!
# What the relations of a run join

Every gathered run is grounded (`Gathered.grounded`). So each of its relations, found in a tree or resolved from a
reference, starts and ends at elements of the run whose kinds fit (`joins_of_mem_allRelations`), and if the ids of the
elements are distinct no relation is there twice (`nodup_allRelations`): a containment is known by the element it ends at, a
resolved reference is never a containment, and resolved references are listed once.
-/

namespace CodeAtlas

/-- Relations of a kind may lead from elements of one kind to elements of another. -/
def RelationKind.joins (kind : RelationKind) (source target : ElementKind) : Bool :=
  if kind = .contains then source ≠ .importDef else kind.startsAt source && Run.eligible kind target

/-- The run rests on its elements. -/
def Run.IsGrounded (r : Run) : Prop := Grounded r.elements r.relations r.references

/-- A visit finds what is grounded, or nothing. -/
theorem Setup.visit_grounded {s : Setup} {r : Resolver} {runId : String} {ordinal : Nat} {file : String}
    {src : SourceFile} {result : FileResult} (h : s.visit r runId ordinal file src = .ok result) {found : Findings}
    (ok : result.outcome = .ok found) : found.IsGrounded := by
  unfold Setup.visit at h
  split at h
  · cases h
  · obtain ⟨prepared, -, rfl⟩ := Except.map_eq_ok_iff.mp h
    obtain ⟨p, -, findings⟩ := Except.bind_eq_ok_iff.mp (Except.mapError_eq_ok_iff.mp ok)
    exact Visit.findings_grounded findings

/-- Merging a file whose findings are grounded keeps the run grounded. -/
theorem Run.IsGrounded.merge {run : Run} (h : run.IsGrounded) {result : FileResult}
    (grounded : ∀ found, result.outcome = .ok found → found.IsGrounded) : (run.merge result).IsGrounded := by
  unfold Run.merge
  cases outcome : result.outcome with
  | error e => exact h
  | ok found => exact h.append (grounded found outcome)

/-- Every gathered run is grounded. -/
theorem Gathered.grounded {s : Setup} {run : Run} (h : Gathered s run) : run.IsGrounded := by
  induction h with
  | new runId => exact Grounded.nil
  | number next _ ih => exact ih
  | merge _ visit ih => exact ih.merge fun _ => Setup.visit_grounded visit

namespace Run.IsGrounded

variable {run : Run} (h : run.IsGrounded)
include h

/-- A relation found in a tree is a containment in an element that is no import. -/
theorem joins_of_mem_relations {rel : Relation} (mem : rel ∈ run.relations) :
    ∃ a ∈ run.elements, ∃ b ∈ run.elements,
      a.id = rel.source ∧ b.id = rel.target ∧ rel.kind.joins a.kind b.kind = true := by
  obtain ⟨kind, a, ha, source, opens⟩ := h.containers rel mem
  obtain ⟨b, hb, target⟩ := List.mem_map.mp (h.targets.subset (List.mem_map_of_mem mem))
  exact ⟨a, ha, b, hb, source, target, by simp [RelationKind.joins, kind, opens]⟩

/-- References are never containments. -/
theorem reference_ne_contains {ref : Reference} (mem : ref ∈ run.references) : ref.kind ≠ .contains := by
  obtain ⟨e, -, -, starts⟩ := h.starts ref mem
  intro kind
  rw [kind] at starts
  cases starts

/-- A resolved reference joins elements whose kinds fit. -/
theorem joins_of_mem_resolve {rel : Relation} (mem : rel ∈ run.resolve) :
    ∃ a ∈ run.elements, ∃ b ∈ run.elements,
      a.id = rel.source ∧ b.id = rel.target ∧ rel.kind.joins a.kind b.kind = true := by
  obtain ⟨ref, hr, b, target, rfl⟩ := Run.mem_resolve.mp mem
  obtain ⟨a, ha, source, starts⟩ := h.starts ref hr
  have spec := Run.target_spec target
  refine ⟨a, ha, b, spec.known, source, rfl, ?_⟩
  simp [RelationKind.joins, h.reference_ne_contains hr, starts, spec.eligible]

/-- Every relation joins elements of the run whose kinds fit. -/
theorem joins_of_mem_allRelations {rel : Relation} (mem : rel ∈ run.allRelations) :
    ∃ a ∈ run.elements, ∃ b ∈ run.elements,
      a.id = rel.source ∧ b.id = rel.target ∧ rel.kind.joins a.kind b.kind = true := by
  rcases List.mem_append.mp mem with mem | mem
  · exact h.joins_of_mem_relations mem
  · exact h.joins_of_mem_resolve mem

/-- If the ids of the elements are distinct, no relation is there twice. -/
theorem nodup_allRelations (distinct : (run.elements.map (·.id)).Nodup) : run.allRelations.Nodup := by
  have structural : run.relations.Nodup := List.Nodup.of_map _ (distinct.sublist h.targets)
  refine List.nodup_append.mpr ⟨structural, Run.nodup_resolve run, fun rel found rel' resolved same => ?_⟩
  subst same
  obtain ⟨ref, hr, e, -, rfl⟩ := Run.mem_resolve.mp resolved
  exact h.reference_ne_contains hr (h.containers _ found).1

end Run.IsGrounded

end CodeAtlas
