import CodeAtlas.Proofs.Graph.Edges
import CodeAtlas.Proofs.Run.Scan

/-!
# Elements that are their own bases

The bases of a class or an interface are noted down by their last names, without a file to look in (`NotesBases`). A name is
looked for in the file of the element first, then in the file that an import binds it to, and at last everywhere. So an
element can be found as its own base (`meaning_eq_self_iff`): under its own name, whatever stands before the name, or under a
name that an import of its file binds to the element itself. These are the edges of the graph that lead from an element to
itself as a base (`ownBases_iff_selfLoops`).
-/

namespace CodeAtlas

/-- Relations of the kind lead to bases. -/
def RelationKind.IsHeritage (kind : RelationKind) : Prop := kind = .inherits ∨ kind = .implements

/-! ## Noted bases -/

/-- The reference notes down a base of the element. -/
structure Reference.IsBaseOf (ref : Reference) (x : Element) : Prop where
  source : ref.source = x.id
  file : ref.file = x.file
  unbound : ref.modulePath = none

/-- The bases that the references note down are bases of the elements. -/
def NotesBases (elements : List Element) (references : List Reference) : Prop :=
  ∀ ref ∈ references, ref.kind.IsHeritage → ∃ x ∈ elements, ref.IsBaseOf x

theorem NotesBases.nil : NotesBases [] [] := fun _ mem => absurd mem List.not_mem_nil

theorem NotesBases.append {es es' : List Element} {refs refs' : List Reference} (h : NotesBases es refs)
    (h' : NotesBases es' refs') : NotesBases (es ++ es') (refs ++ refs') := by
  intro ref mem heritage
  rcases List.mem_append.mp mem with mem | mem
  · obtain ⟨x, known, base⟩ := h ref mem heritage
    exact ⟨x, List.mem_append_left _ known, base⟩
  · obtain ⟨x, known, base⟩ := h' ref mem heritage
    exact ⟨x, List.mem_append_right _ known, base⟩

namespace Visit

/-- The collected references note down bases of the collected elements. -/
def State.NotesBases (st : State) : Prop := CodeAtlas.NotesBases st.findings.elements st.findings.references

theorem State.NotesBases.addReference {st : State} (h : st.NotesBases) {ref : Reference}
    (base : ref.kind.IsHeritage → ∃ x ∈ st.findings.elements, ref.IsBaseOf x) : (st.addReference ref).NotesBases := by
  intro ref' mem heritage
  rw [State.addReference_elements]
  rcases State.mem_addReference st mem with mem | rfl
  · exact h ref' mem heritage
  · exact base heritage

theorem change_notesBases {s : Subject} {m m' : Moment} (own : m.InFile s) (h : m.state.NotesBases)
    (change : Change s m m') : m'.state.NotesBases := by
  cases change with
  | declare scope st n kind name =>
    intro ref mem heritage
    rw [declare_references] at mem
    obtain ⟨x, known, base⟩ := h ref mem heritage
    exact ⟨x, by rw [declare_elements]; exact List.mem_append_left _ known, base⟩
  | @inherit scope st e kind base known inherits bases =>
    exact h.addReference fun _ => ⟨e, known, rfl, (own e known).symm, rfl⟩
  | @bind scope st e module imported path member bound known imports found foundMember =>
    have bound : (st.bind ⟨bound, imported, module, member.or path⟩).NotesBases := h
    exact bound.addReference (by simp [RelationKind.IsHeritage])
  | mention outer scope st name mentions =>
    refine h.addReference fun heritage => ?_
    rcases mentions with rfl | rfl <;> simp [RelationKind.IsHeritage] at heritage
  | enter | leave => exact h

/-- The references that are found in a tree note down bases of its elements. -/
theorem walkTree_notesBases {s : Subject} {root : Node} {found : Findings} (h : walkTree s root = .ok found) :
    CodeAtlas.NotesBases found.elements found.references := by
  obtain ⟨m, ⟨-, noted⟩, rfl⟩ := walkTree_invariant (P := fun m => m.InFile s ∧ m.state.NotesBases)
    ⟨Moment.InFile.start s, NotesBases.nil⟩
    (fun _ _ kept change => ⟨kept.1.change change, change_notesBases kept.1 kept.2 change⟩) h
  exact noted

end Visit

/-- The references of a gathered run note down bases of its elements. -/
theorem Gathered.notesBases {s : Setup} {run : Run} (h : Gathered s run) : NotesBases run.elements run.references := by
  induction h with
  | new runId => exact NotesBases.nil
  | number next _ ih => exact ih
  | @merge run r ordinal file src result _ visit ih =>
    unfold Run.merge
    cases outcome : result.outcome with
    | error e => exact ih
    | ok found =>
      obtain ⟨p, root, walked⟩ := Setup.visit_walked visit outcome
      exact ih.append (Visit.walkTree_notesBases walked)

/-! ## Names that mean the element they stand at -/

namespace Run

variable {r : Run} {kind : RelationKind} {x : Element}

/-- The first element of a name in a file that relations of the kind may lead to. -/
def firstIn (r : Run) (kind : RelationKind) (file name : String) : Option Element :=
  (r.namedIn file name).find? fun e => eligible kind e.kind

/-- An import of the element's file binds the name to the element itself. -/
def BindsToSelf (r : Run) (x : Element) (name : String) : Prop :=
  x.file ≠ "" ∧ ∃ names b, r.bindings.get? x.file = some names ∧ names.get? name = some b ∧
    b.modulePath = some x.file ∧ b.importedName = x.name

/-- The name, written as a base of the element, means the element itself: the element is the first of its name in its file,
and the name is its own, or none of the file's and bound to the element. -/
structure MeansSelf (r : Run) (kind : RelationKind) (x : Element) (name : String) : Prop where
  first : r.firstIn kind x.file x.name = some x
  named : name = x.name ∨ r.firstIn kind x.file name = none ∧ r.BindsToSelf x name

theorem of_mem_namedIn {file name : String} (mem : x ∈ r.namedIn file name) :
    x ∈ r.referable ∧ x.file = file ∧ x.name = name := by
  simpa [namedIn] using mem

/-- What an import binds a name to is the first element of the imported name in the imported file. -/
theorem find?_bound {ref : Reference} {names : Table String Binding} {b : Binding} {file : String}
    (bindings : r.bindings.get? ref.file = some names) (bound : names.get? ref.targetName = some b)
    (path : b.modulePath = some file) (named : file ≠ "") :
    ((r.bound ref).find? fun e => eligible kind e.kind) = r.firstIn kind file b.importedName := by
  simp only [Run.bound, bindings, bound, path, namedWithin, firstIn]

theorem bindsToSelf_of_mem_bound {ref : Reference} (file : ref.file = x.file) (mem : x ∈ r.bound ref) :
    r.BindsToSelf x ref.targetName := by
  unfold Run.bound at mem
  split at mem
  · cases mem
  · rename_i names bindings
    split at mem
    · cases mem
    · rename_i b bound
      unfold namedWithin at mem
      split at mem
      · cases mem
      · cases mem
      · rename_i path named given
        obtain ⟨-, there, name⟩ := of_mem_namedIn mem
        refine ⟨?_, names, b, file ▸ bindings, bound, there ▸ given, name.symm⟩
        rw [there]
        simpa using named

theorem meaning_eq_or {ref : Reference} (unbound : ref.modulePath = none) :
    r.meaning ref = (r.firstIn ref.kind ref.file ref.targetName).or
      (((r.bound ref).find? fun e => eligible ref.kind e.kind).or
        ((r.named ref.targetName).find? fun e => eligible ref.kind e.kind)) := by
  unfold meaning places namedWithin
  rw [unbound, ← List.find?_flatten]
  simp [firstIn, List.find?_append]

/-- An element is not found among all elements of a name if its own file has none that fits. -/
theorem ne_of_firstIn_eq_none {name : String} (missing : r.firstIn kind x.file name = none) :
    ((r.named name).find? fun e => eligible kind e.kind) ≠ some x := by
  intro found
  have fits : eligible kind x.kind = true := List.find?_some (p := fun e : Element => eligible kind e.kind) found
  have mem : x ∈ r.referable ∧ x.name = name := by simpa [named] using List.mem_of_find?_eq_some found
  have there : x ∈ r.namedIn x.file name := by simpa [namedIn] using mem
  exact List.find?_eq_none.mp missing x there fits

/-- A noted base of an element means the element itself exactly if its name does. -/
theorem meaning_eq_self_iff {ref : Reference} (base : ref.IsBaseOf x) :
    r.meaning ref = some x ↔ r.MeansSelf ref.kind x ref.targetName := by
  rw [meaning_eq_or base.unbound, base.file]
  constructor
  · intro found
    rcases Option.or_eq_some_iff.mp found with found | ⟨missing, found⟩
    · obtain ⟨-, -, name⟩ := of_mem_namedIn (List.mem_of_find?_eq_some found)
      exact ⟨name ▸ found, Or.inl name.symm⟩
    · rcases Option.or_eq_some_iff.mp found with found | ⟨-, found⟩
      · obtain ⟨named, names, b, bindings, bound, path, imported⟩ :=
          bindsToSelf_of_mem_bound base.file (List.mem_of_find?_eq_some found)
        rw [find?_bound (base.file ▸ bindings) bound path named, imported] at found
        exact ⟨found, Or.inr ⟨missing, named, names, b, bindings, bound, path, imported⟩⟩
      · exact absurd found (ne_of_firstIn_eq_none missing)
  · rintro ⟨first, own | ⟨missing, named, names, b, bindings, bound, path, imported⟩⟩
    · rw [own, first, Option.some_or]
    · rw [missing, find?_bound (base.file ▸ bindings) bound path named, imported, first, Option.none_or, Option.some_or]

/-- The names under which bases of the kind are noted for the element. -/
def basesOf (r : Run) (kind : RelationKind) (x : Element) : List String :=
  (r.references.filter fun ref => ref.source = x.id ∧ ref.file = x.file ∧ ref.kind = kind).map (·.targetName)

/-- The element is one of its own bases. -/
def IsOwnBase (r : Run) (kind : RelationKind) (x : Element) : Prop := ∃ name ∈ r.basesOf kind x, r.MeansSelf kind x name

/-- An element is one of its own bases exactly if one of its noted bases means it. -/
theorem isOwnBase_iff (noted : NotesBases r.elements r.references) (heritage : kind.IsHeritage) :
    r.IsOwnBase kind x ↔ ∃ ref ∈ r.references, ref.kind = kind ∧ ref.IsBaseOf x ∧ r.meaning ref = some x := by
  constructor
  · rintro ⟨name, listed, self⟩
    obtain ⟨ref, kept, rfl⟩ := List.mem_map.mp listed
    obtain ⟨mem, source, file, rfl⟩ : ref ∈ r.references ∧ ref.source = x.id ∧ ref.file = x.file ∧ ref.kind = kind := by
      simpa using List.mem_filter.mp kept
    obtain ⟨_, -, base⟩ := noted ref mem heritage
    have base : ref.IsBaseOf x := ⟨source, file, base.unbound⟩
    exact ⟨ref, mem, rfl, base, (meaning_eq_self_iff base).mpr self⟩
  · rintro ⟨ref, mem, rfl, base, means⟩
    refine ⟨ref.targetName, List.mem_map_of_mem (List.mem_filter.mpr ⟨mem, ?_⟩), (meaning_eq_self_iff base).mp means⟩
    simp [base.source, base.file]

end Run

/-! ## Edges -/

/-- After every history, the graph has an edge from each element that is one of its own bases to itself. It has no other edge
to a base that ends where it starts, unless two elements share an id. -/
theorem selfLoops_are_ownBases {setup : Setup} {runId : String} {a : Analyzer} (fresh : Analyzer.new setup runId = .ok a)
    (requests : List Analyzer.Request) {kind : RelationKind} (heritage : kind.IsHeritage) :
    let run := (a.afterAll requests).run
    let edges := (Analyzer.graphOf run).edges
    (∀ x ∈ run.elements, run.IsOwnBase kind x → Graph.edgeOf ⟨x.id, x.id, kind⟩ ∈ edges) ∧
      ∀ e ∈ edges, e.kind = kind.name → e.source = e.target → ∃ x ∈ run.elements, x.id = e.source ∧
        (run.IsOwnBase kind x ∨ ∃ y ∈ run.elements, y ≠ x ∧ y.id = x.id) := by
  intro run edges
  have gathered := Analyzer.afterAll_gathered fresh requests
  have grounded : run.IsGrounded := gathered.grounded
  have noted : NotesBases run.elements run.references := gathered.notesBases
  have listed : edges = run.allRelations.map Graph.edgeOf := grounded.edges_graphOf
  rw [listed]
  refine ⟨fun x known own => ?_, fun e mem named loop => ?_⟩
  · obtain ⟨ref, mem, rfl, base, means⟩ := (Run.isOwnBase_iff noted heritage).mp own
    have resolved : ⟨x.id, x.id, ref.kind⟩ ∈ run.resolve :=
      Run.mem_resolve.mpr ⟨ref, mem, x, (Run.target_eq_meaning run ref).trans means, by rw [base.source]⟩
    exact List.mem_map_of_mem (List.mem_append_right _ resolved)
  · obtain ⟨rel, related, rfl⟩ := List.mem_map.mp mem
    obtain rfl : rel.kind = kind := RelationKind.name_injective named
    rcases List.mem_append.mp related with found | resolved
    · rw [(grounded.containers rel found).1] at heritage
      simp [RelationKind.IsHeritage] at heritage
    · obtain ⟨ref, noted', y, target, rfl⟩ := Run.mem_resolve.mp resolved
      obtain ⟨x, known, base⟩ := noted ref noted' heritage
      refine ⟨x, known, base.source.symm, ?_⟩
      by_cases same : y = x
      · subst same
        exact Or.inl ((Run.isOwnBase_iff noted heritage).mpr
          ⟨ref, noted', rfl, base, (Run.target_eq_meaning run ref).symm.trans target⟩)
      · exact Or.inr ⟨y, (Run.target_spec target).known, same, loop.symm.trans base.source⟩

/-! ## Two small repositories -/

namespace Sample

/-- `class A(m.A):0`, a class whose base has its name behind a qualifier, and its tree. -/
def qualifiedFile : SourceFile where
  text := "class A(m.A):0"
  tree := some ⟨.mk "module" true 0 14 none [
    .mk "class_definition" true 0 14 none [
      .mk "identifier" true 6 7 (some "name") [],
      .mk "argument_list" true 7 12 (some "superclasses") [
        .mk "attribute" true 8 11 none [
          .mk "identifier" true 8 9 (some "object") [],
          .mk "identifier" true 10 11 (some "attribute") []]]]], false⟩

/-- `from a import A as B`, followed by `class A(B):0`, and its tree. -/
def circularFile : SourceFile where
  text := "from a import A as B\nclass A(B):0"
  tree := some ⟨.mk "module" true 0 33 none [
    .mk "import_from_statement" true 0 20 none [
      .mk "dotted_name" true 5 6 (some "module_name") [],
      .mk "aliased_import" true 14 20 (some "name") [
        .mk "dotted_name" true 14 15 (some "name") [],
        .mk "identifier" true 19 20 (some "alias") []]],
    .mk "class_definition" true 21 33 none [
      .mk "identifier" true 27 28 (some "name") [],
      .mk "argument_list" true 28 31 (some "superclasses") [.mk "identifier" true 29 30 none []]]], false⟩

/-- The run after analyzing one file. -/
def runOf (file : SourceFile) : Run := (analyzer.afterAll [.analyze "a.py" file]).run

theorem inherits_itself : ∀ file ∈ [qualifiedFile, circularFile], ((runOf file).elements.map (·.id)).Nodup ∧
    ∃ rel ∈ (runOf file).allRelations, rel.kind = .inherits ∧ rel.source = rel.target := by decide +kernel

theorem loops : ∀ file ∈ [qualifiedFile, circularFile], ((runOf file).elements.map (·.id)).Nodup ∧
    ∃ e ∈ (Analyzer.graphOf (runOf file)).edges, e.kind = "inherits" ∧ e.source = e.target := by
  intro file mem
  obtain ⟨distinct, rel, related, kind, loop⟩ := inherits_itself file mem
  have grounded : (runOf file).IsGrounded := (Analyzer.afterAll_gathered new_setup [.analyze "a.py" file]).grounded
  refine ⟨distinct, Graph.edgeOf rel, ?_, congrArg RelationKind.name kind, loop⟩
  rw [grounded.edges_graphOf]
  exact List.mem_map_of_mem related

end Sample

/-- In a file whose class inherits from itself by an import, the class is one of its own bases and has the edge. -/
theorem sample_ownBase : Analyzer.new Sample.setup "run" = .ok Sample.analyzer ∧ RelationKind.inherits.IsHeritage ∧
    ∃ x ∈ (Sample.runOf Sample.circularFile).elements, (Sample.runOf Sample.circularFile).IsOwnBase .inherits x ∧
      Graph.edgeOf ⟨x.id, x.id, .inherits⟩ ∈ (Analyzer.graphOf (Sample.runOf Sample.circularFile)).edges := by
  obtain ⟨distinct, e, mem, kind, loop⟩ := Sample.loops Sample.circularFile (by simp)
  have heritage : RelationKind.inherits.IsHeritage := Or.inl rfl
  obtain ⟨edge, own⟩ := selfLoops_are_ownBases Sample.new_setup [.analyze "a.py" Sample.circularFile] heritage
  obtain ⟨x, known, -, own | ⟨y, known', other, same⟩⟩ := own e mem kind loop
  · exact ⟨Sample.new_setup, heritage, x, known, own, edge x known own⟩
  · exact absurd (eq_of_id_eq distinct known' known same) other

/-- A class inherits from itself, though no two elements share an id, if its base has its name behind a qualifier, and if
an import binds the name of its base to the class. -/
theorem sample_selfLoops :
    (((Sample.runOf Sample.qualifiedFile).elements.map (·.id)).Nodup ∧
      ∃ e ∈ (Analyzer.graphOf (Sample.runOf Sample.qualifiedFile)).edges, e.kind = "inherits" ∧ e.source = e.target) ∧
    ((Sample.runOf Sample.circularFile).elements.map (·.id)).Nodup ∧
      ∃ e ∈ (Analyzer.graphOf (Sample.runOf Sample.circularFile)).edges, e.kind = "inherits" ∧ e.source = e.target :=
  ⟨Sample.loops _ (by simp), Sample.loops _ (by simp)⟩

end CodeAtlas
