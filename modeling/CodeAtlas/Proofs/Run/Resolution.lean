import CodeAtlas.Proofs.Distinct
import CodeAtlas.Proofs.Table
import CodeAtlas.Run

/-!
# Resolved references

What the indexes of a run find is the first element, in the order of the run, that can be named, stands where it is looked
for and is of a fitting kind (`Index.inFile_of`, `Index.anywhere_of`). So a reference resolves to an element of the run of a
kind that is eligible (`target_spec`), and the relations of the references are the distinct relations from their sources to
their targets (`mem_resolve`, `nodup_resolve`).
-/

namespace CodeAtlas.Run

variable {r : Run} {e : Element}

/-! ## What the indexes find -/

theorem Index.inFile_of (es : List Element) (kind : RelationKind) (file name : String) :
    (Index.of es).inFile kind file name =
      es.find? fun e => isNameable e && ((e.file, e.name) = (file, name) && eligible kind e.kind) := by
  unfold Index.inFile Index.of firstEligible
  rw [Table.getD_group, List.find?_filter, List.find?_filter]
  simp only [Bool.decide_and, Bool.decide_eq_true]

theorem Index.anywhere_of (es : List Element) (kind : RelationKind) (name : String) :
    (Index.of es).anywhere kind name = es.find? fun e => isNameable e && (e.name = name && eligible kind e.kind) := by
  unfold Index.anywhere Index.of firstEligible
  rw [Table.getD_group, List.find?_filter, List.find?_filter]
  simp only [Bool.decide_and, Bool.decide_eq_true]

/-- The element may be what a reference of a kind means. -/
structure IsTarget (es : List Element) (kind : RelationKind) (e : Element) : Prop where
  known : e ∈ es
  nameable : isNameable e = true
  eligible : eligible kind e.kind = true

theorem Index.inFile_target {es : List Element} {kind : RelationKind} {file name : String}
    (h : (Index.of es).inFile kind file name = some e) : IsTarget es kind e := by
  rw [Index.inFile_of] at h
  have found := List.find?_some h
  simp only [Bool.and_eq_true] at found
  exact ⟨List.mem_of_find?_eq_some h, found.1, found.2.2⟩

theorem Index.anywhere_target {es : List Element} {kind : RelationKind} {name : String}
    (h : (Index.of es).anywhere kind name = some e) : IsTarget es kind e := by
  rw [Index.anywhere_of] at h
  have found := List.find?_some h
  simp only [Bool.and_eq_true] at found
  exact ⟨List.mem_of_find?_eq_some h, found.1, found.2.2⟩

/-- Wherever the target of a reference is found, it is an element of the run of an eligible kind. -/
theorem target_spec {ref : Reference} (h : r.target (Index.of r.elements) ref = some e) :
    IsTarget r.elements ref.kind e := by
  unfold target at h
  simp only [Option.or_eq_some_iff] at h
  rcases h with ((h | ⟨-, h⟩) | ⟨-, h⟩) | ⟨-, h⟩
  · obtain ⟨file, -, h⟩ := Option.bind_eq_some_iff.mp h
    exact Index.inFile_target h
  · exact Index.inFile_target h
  · obtain ⟨b, -, h⟩ := Option.bind_eq_some_iff.mp h
    obtain ⟨file, -, h⟩ := Option.bind_eq_some_iff.mp h
    exact Index.inFile_target h
  · exact Index.anywhere_target h

/-! ## The relations of the references -/

/-- The relations that the references stand for, each as often as it is meant. -/
def meant (r : Run) : List Relation :=
  r.references.filterMap fun ref => (r.target (Index.of r.elements) ref).map fun e => ⟨ref.source, e.id, ref.kind⟩

theorem resolve_eq (r : Run) : r.resolve = r.meant.foldl addRelation [] := rfl

/-- Relations are appended unless they are there, so of those that are new the first occurrences are appended. -/
theorem foldl_addRelation (rels found : List Relation) :
    rels.foldl addRelation found = found ++ (rels.filter (· ∉ found)).eraseDups :=
  List.foldl_appendNew rels found

theorem resolve_eq_eraseDups (r : Run) : r.resolve = r.meant.eraseDups := by
  rw [resolve_eq, foldl_addRelation]
  simp

/-- A relation stands for a reference that has a target. -/
theorem mem_resolve {rel : Relation} : rel ∈ r.resolve ↔
    ∃ ref ∈ r.references, ∃ e, r.target (Index.of r.elements) ref = some e ∧ ⟨ref.source, e.id, ref.kind⟩ = rel := by
  rw [resolve_eq_eraseDups, List.mem_eraseDups]
  simp only [meant, List.mem_filterMap, Option.map_eq_some_iff]

/-- No relation is listed twice for references. -/
theorem nodup_resolve (r : Run) : r.resolve.Nodup := resolve_eq_eraseDups r ▸ List.nodup_eraseDups r.meant

end CodeAtlas.Run
