import CodeAtlas.Proofs.Run.Resolution

/-!
# Resolution without indexes

A reference is looked for in up to four places (`places`): the file it was imported from, its own file, the file that its
name is bound to by an import, and all files. It means the first element of a fitting kind in the first place that has one
(`meaning`). Each place is a part of the list of all elements, in the order in which they were merged.

The indexes of a run give the same as these scans (`target_eq_meaning`). So resolving is going through the references in
their order, dropping those without a meaning, and keeping each relation where it first occurs (`resolve_eq_scan`).
-/

namespace CodeAtlas.Run

/-- The elements that can be referred to: those with a name that are no imports. -/
def referable (r : Run) : List Element := r.elements.filter fun e => e.kind ≠ .importDef ∧ e.name ≠ ""

/-- The elements of a name. -/
def named (r : Run) (name : String) : List Element := r.referable.filter (·.name = name)

/-- The elements of a file and a name. -/
def namedIn (r : Run) (file name : String) : List Element := r.referable.filter fun e => e.file = file ∧ e.name = name

/-- The elements of a name in a file that may be unknown; an empty path stands for no file. -/
def namedWithin (r : Run) (path : Option String) (name : String) : List Element :=
  match path with
  | none | some "" => []
  | some file => r.namedIn file name

/-- The name that a reference has where it was imported from: its own one if no other is given. -/
def nameThere (ref : Reference) : String :=
  match ref.importedName with
  | none | some "" => ref.targetName
  | some name => name

/-- The elements that an import of the reference's file binds its name to. -/
def bound (r : Run) (ref : Reference) : List Element :=
  match r.bindings.get? ref.file with
  | none => []
  | some names =>
    match names.get? ref.targetName with
    | none => []
    | some b => r.namedWithin b.modulePath b.importedName

/-- The places in which a reference is looked for, one after another. -/
def places (r : Run) (ref : Reference) : List (List Element) :=
  [r.namedWithin ref.modulePath (nameThere ref), r.namedIn ref.file ref.targetName, r.bound ref, r.named ref.targetName]

/-- The element that a reference means: the first one of a fitting kind in the first place that has one. -/
def meaning (r : Run) (ref : Reference) : Option Element :=
  (r.places ref).findSome? fun place => place.find? fun e => eligible ref.kind e.kind

/-- The relations of the references, each where it first occurs. -/
def scan (r : Run) : List Relation :=
  (r.references.filterMap fun ref => (r.meaning ref).map fun e => ⟨ref.source, e.id, ref.kind⟩).eraseDups

/-! ## Indexes and scans -/

section Scans

variable (r : Run) (kind : RelationKind)

theorem inFile_eq_find? (file name : String) :
    (Index.of r.elements).inFile kind file name = (r.namedIn file name).find? fun e => eligible kind e.kind := by
  rw [Index.inFile_of, namedIn, referable, List.find?_filter, List.find?_filter]
  congr 1
  funext e
  simp [isNameable, Bool.and_assoc]

theorem anywhere_eq_find? (name : String) :
    (Index.of r.elements).anywhere kind name = (r.named name).find? fun e => eligible kind e.kind := by
  rw [Index.anywhere_of, named, referable, List.find?_filter, List.find?_filter]
  congr 1
  funext e
  simp [isNameable, Bool.and_assoc]

/-- Without a path the indexes are not asked, and the scan finds nothing. -/
theorem inPresent_eq_find? (path : Option String) (name : String) :
    ((present path).bind fun file => (Index.of r.elements).inFile kind file name) =
      (r.namedWithin path name).find? fun e => eligible kind e.kind := by
  unfold namedWithin
  split
  · rfl
  · rfl
  · rename_i file named
    have there : present (some file) = some file := Option.filter_some_pos (by simpa using named)
    rw [there, Option.bind_some, inFile_eq_find?]

theorem importedName_eq_nameThere (ref : Reference) : importedName ref = nameThere ref := by
  unfold importedName nameThere
  split
  · rename_i given
    rw [given]
    rfl
  · rename_i given
    rw [given]
    rfl
  · rename_i name named given
    have there : present (some name) = some name := Option.filter_some_pos (by simpa using named)
    rw [given, there]
    rfl

theorem inBound_eq_find? (ref : Reference) :
    ((r.bindingOf ref).bind fun b =>
      (present b.modulePath).bind fun file => (Index.of r.elements).inFile kind file b.importedName) =
        (r.bound ref).find? fun e => eligible kind e.kind := by
  unfold bindingOf bound
  cases r.bindings.get? ref.file with
  | none => rfl
  | some names =>
    simp only [Option.bind_some]
    cases names.get? ref.targetName with
    | none => rfl
    | some b => exact inPresent_eq_find? r kind b.modulePath b.importedName

/-- The indexes find what a reference means. -/
theorem target_eq_meaning (ref : Reference) : r.target (Index.of r.elements) ref = r.meaning ref := by
  unfold target meaning places
  rw [inPresent_eq_find?, importedName_eq_nameThere, inFile_eq_find?, inBound_eq_find?, anywhere_eq_find?]
  rw [← List.find?_flatten]
  simp only [List.flatten_cons, List.flatten_nil, List.append_nil, List.find?_append, Option.or_assoc]

end Scans

/-- Resolving by indexes gives the relations that scanning all elements for each reference gives. -/
theorem resolve_eq_scan (r : Run) : r.resolve = r.scan := by
  rw [resolve_eq, foldl_addRelation, meant, scan]
  simp only [target_eq_meaning, List.not_mem_nil, not_false_eq_true, decide_true, List.filter_true, List.nil_append]

end CodeAtlas.Run
