import CodeAtlas.Language.Bundled
import CodeAtlas.Proofs.Grounded
import CodeAtlas.Proofs.Table
import CodeAtlas.Proofs.Visit.Outline
import CodeAtlas.Proofs.Visit.Subtree

/-!
# Bound names and references to imports

A visit binds each name of an import and notes down a reference under this name. A name that is bound once more is bound
anew, but an import refers to a name only once. So an import that imports several things under one name binds the last of
them (`get?_bindAll`) and refers to the first (`mem_bindAll`).

Hence every bound name has a reference, and one that agrees with the binding in file and imported name unless the import that
bound it last imports something else under it first (`findings_bindings`).
-/

namespace CodeAtlas

/-- The reference leads where the binding does. -/
structure Binding.AgreesWith (b : Binding) (r : Reference) : Prop where
  kind : r.kind = .imports
  name : r.targetName = b.localName
  file : r.modulePath = b.modulePath
  imported : r.importedName = some b.importedName

instance (b : Binding) : DecidablePred b.AgreesWith := fun r =>
  decidable_of_iff (r.kind = .imports ∧ r.targetName = b.localName ∧ r.modulePath = b.modulePath ∧
      r.importedName = some b.importedName)
    ⟨fun ⟨kind, name, file, imported⟩ => ⟨kind, name, file, imported⟩, fun h => ⟨h.kind, h.name, h.file, h.imported⟩⟩

namespace Visit

/-! ## What an import imports under a name -/

/-- The first thing that is imported under a name. -/
def firstUnder (name : String) (names : List (String × String)) : Option String := (names.find? (·.1 = name)).map (·.2)

/-- The last thing that is imported under a name. -/
def lastUnder (name : String) (names : List (String × String)) : Option String := firstUnder name names.reverse

variable {name : String} {names : List (String × String)}

theorem firstUnder_cons (bound imported : String) :
    firstUnder name ((bound, imported) :: names) = if bound = name then some imported else firstUnder name names := by
  by_cases same : bound = name <;> simp [firstUnder, same]

theorem lastUnder_cons (bound imported : String) : lastUnder name ((bound, imported) :: names) =
    (lastUnder name names).or (if bound = name then some imported else none) := by
  unfold lastUnder firstUnder
  rw [List.reverse_cons, List.find?_append, Option.map_or]
  exact congrArg _ (firstUnder_cons bound imported)

/-- What is imported under a name last has a first one. -/
theorem exists_firstUnder {imported : String} (last : lastUnder name names = some imported) :
    ∃ first, firstUnder name names = some first := by
  induction names with
  | nil => cases last
  | cons pair names ih =>
    obtain ⟨bound, imported'⟩ := pair
    rw [firstUnder_cons]
    split
    · exact ⟨imported', rfl⟩
    · rename_i other
      rw [lastUnder_cons, if_neg other, Option.or_none] at last
      exact ih last

/-! ## References of a state -/

section References

variable {st : State}

theorem State.hasReference_iff {source : String} {kind : RelationKind} : st.hasReference source name kind = true ↔
    ∃ r ∈ st.findings.references, r.source = source ∧ r.targetName = name ∧ r.kind = kind := by
  simp [State.hasReference, and_assoc]

theorem State.references_subset_addReference (st : State) (r : Reference) :
    st.findings.references ⊆ (st.addReference r).findings.references := by
  unfold State.addReference
  split
  · exact List.Subset.refl _
  · exact List.subset_append_left _ _

theorem State.mem_addReference_self {r : Reference} (new : st.hasReference r.source r.targetName r.kind = false) :
    r ∈ (st.addReference r).findings.references := by
  rw [State.addReference, new]
  exact List.mem_append_right _ (List.mem_singleton_self r)

/-- A reference under another name is no reference under this one. -/
theorem State.hasReference_addReference_of_ne {r : Reference} {source : String} {kind : RelationKind}
    (new : st.hasReference source name kind = false) (other : r.targetName ≠ name) :
    (st.addReference r).hasReference source name kind = false := by
  rw [← Bool.not_eq_true, State.hasReference_iff] at new ⊢
  rintro ⟨r', mem, source', name', kind'⟩
  rcases State.mem_addReference st mem with mem | rfl
  · exact new ⟨r', mem, source', name', kind'⟩
  · exact other name'

end References

/-! ## The names of one import -/

section Import

variable {s : Subject} {e : Element} {module : String} {own : Option String} {st st' : State}

/-- The first name is bound and referred to, then the others are. -/
theorem bindAll_cons {bound imported : String}
    (h : ((bound, imported) :: names).foldlM (bindName s e module own) st = .ok st') :
    ∃ member, memberFile s module imported = .ok member ∧
      names.foldlM (bindName s e module own) ((st.bind ⟨bound, imported, module, member.or own⟩).addReference
        ⟨e.id, bound, .imports, s.file, member.or own, some imported⟩) = .ok st' := by
  rw [List.foldlM_cons] at h
  obtain ⟨st₁, first, rest⟩ := Except.bind_eq_ok_iff.mp h
  obtain ⟨member, found, rfl⟩ := Except.map_eq_ok_iff.mp first
  exact ⟨member, found, rest⟩

/-- The last thing that is imported under a name is bound to it. -/
theorem get?_bindAll (h : names.foldlM (bindName s e module own) st = .ok st') (name : String) :
    (lastUnder name names = none ∧ st'.findings.bindings.get? name = st.findings.bindings.get? name) ∨
      ∃ imported member, lastUnder name names = some imported ∧ memberFile s module imported = .ok member ∧
        st'.findings.bindings.get? name = some ⟨name, imported, module, member.or own⟩ := by
  induction names generalizing st with
  | nil =>
    obtain rfl : st = st' := Except.ok.inj h
    exact Or.inl ⟨rfl, rfl⟩
  | cons pair names ih =>
    obtain ⟨bound, imported⟩ := pair
    obtain ⟨member, found, rest⟩ := bindAll_cons h
    rw [lastUnder_cons]
    rcases ih rest with ⟨last, kept⟩ | ⟨imported', member', last, found', now⟩
    · rw [State.addReference_bindings] at kept
      rw [last, Option.none_or, kept]
      refine (em (bound = name)).symm.imp (fun other => ?_) (fun same => ?_)
      · exact ⟨if_neg other, (Table.get?_put ..).trans (if_neg other)⟩
      · subst same
        exact ⟨imported, member, if_pos rfl, found, (Table.get?_put ..).trans (if_pos rfl)⟩
    · rw [last, Option.some_or]
      exact Or.inr ⟨imported', member', rfl, found', now⟩

theorem references_subset_bindAll (h : names.foldlM (bindName s e module own) st = .ok st') :
    st.findings.references ⊆ st'.findings.references := by
  induction names generalizing st with
  | nil =>
    obtain rfl : st = st' := Except.ok.inj h
    exact List.Subset.refl _
  | cons pair names ih =>
    obtain ⟨bound, imported⟩ := pair
    obtain ⟨member, -, rest⟩ := bindAll_cons h
    exact List.Subset.trans (State.references_subset_addReference (st.bind _) _) (ih rest)

/-- An import that has not referred to a name refers to the first thing that it imports under the name. -/
theorem mem_bindAll (h : names.foldlM (bindName s e module own) st = .ok st')
    (new : st.hasReference e.id name .imports = false) {imported : String} (first : firstUnder name names = some imported) :
    ∃ member, memberFile s module imported = .ok member ∧
      ⟨e.id, name, .imports, s.file, member.or own, some imported⟩ ∈ st'.findings.references := by
  induction names generalizing st with
  | nil => cases first
  | cons pair names ih =>
    obtain ⟨bound, imported'⟩ := pair
    obtain ⟨member, found, rest⟩ := bindAll_cons h
    rw [firstUnder_cons] at first
    split at first
    · rename_i same
      subst same
      obtain rfl := Option.some.inj first
      exact ⟨member, found, references_subset_bindAll rest (State.mem_addReference_self new)⟩
    · rename_i other
      refine ih rest ?_ first
      exact State.hasReference_addReference_of_ne new other

/-- An import has referred to all names that it binds. -/
theorem hasReference_bindAll (h : names.foldlM (bindName s e module own) st = .ok st') {imported : String}
    (first : firstUnder name names = some imported) : st'.hasReference e.id name .imports = true := by
  cases known : st.hasReference e.id name .imports with
  | true =>
    obtain ⟨r, mem, eq⟩ := State.hasReference_iff.mp known
    exact State.hasReference_iff.mpr ⟨r, references_subset_bindAll h mem, eq⟩
  | false =>
    obtain ⟨member, -, mem⟩ := mem_bindAll h known first
    exact State.hasReference_iff.mpr ⟨_, mem, rfl, rfl, rfl⟩

end Import

/-! ## What a node does to the bindings -/

/-- The bindings are the same, and no reference is lost. -/
structure SameBindings (st st' : State) : Prop where
  bindings : st'.findings.bindings = st.findings.bindings
  references : st.findings.references ⊆ st'.findings.references

namespace SameBindings

variable {st st' st'' : State}

theorem refl (st : State) : SameBindings st st := ⟨rfl, List.Subset.refl _⟩

theorem trans (h : SameBindings st st') (h' : SameBindings st' st'') : SameBindings st st'' :=
  ⟨h'.bindings.trans h.bindings, List.Subset.trans h.references h'.references⟩

theorem addReference (st : State) (r : Reference) : SameBindings st (st.addReference r) :=
  ⟨State.addReference_bindings st r, State.references_subset_addReference st r⟩

theorem of_refers {s : Subject} {scope : List Element} (h : Refers s scope st st') : SameBindings st st' := by
  cases h with
  | nothing => exact refl st
  | refers => exact addReference st _

theorem declare (s : Subject) (scope : List Element) (n : Node) (kind : ElementKind) (name : String) (st : State) :
    SameBindings st (Visit.declare s scope n kind name st).2 :=
  ⟨declare_bindings st s scope n kind name, (declare_references st s scope n kind name).symm ▸ List.Subset.refl _⟩

theorem addReferences : ∀ (references : List Reference) (st : State),
    SameBindings st (references.foldl State.addReference st)
  | [], st => refl st
  | r :: references, st => (addReference st r).trans (addReferences references _)

end SameBindings

/-- The node stands for an import, and this is what it imports. -/
structure IsImport (s : Subject) (n : Node) (info : ImportInfo) : Prop where
  shape : ∃ ancestors, shapeOf? s ancestors n = some (.declares .importDef)
  read : s.dialect.importInfo? s.source n = .ok (some info)

/-- A node declares an import and binds its names, or it leaves the bindings as they are. -/
inductive BindsAt (s : Subject) (scope : List Element) (n : Node) (st st' : State) : Prop
  | nothing (same : SameBindings st st')
  | imports (info : ImportInfo) (own : Option String) (isImport : IsImport s n info)
      (bound : info.bindings.foldlM (bindName s (declare s scope n .importDef info.module st).1 info.module own)
        (declare s scope n .importDef info.module st).2 = .ok st')

section Handlers

variable {s : Subject} {scope : List Element} {n : Node} {st st' : State} {out : Option Element}

theorem handleImport_bindsAt (shape : ∃ ancestors, shapeOf? s ancestors n = some (.declares .importDef))
    (h : handleImport s scope n st = .ok st') : BindsAt s scope n st st' := by
  unfold handleImport at h
  obtain ⟨info, read, h⟩ := Except.bind_eq_ok_iff.mp h
  cases info with
  | none =>
    obtain rfl : st = st' := Except.ok.inj h
    exact .nothing (.refl st)
  | some info =>
    obtain ⟨own, -, h⟩ := Except.bind_eq_ok_iff.mp (Except.mapError_eq_ok_iff.mp h)
    exact .imports info own ⟨shape, read⟩ h

/-- Only imports bind names. -/
theorem handle_bindsAt {ancestors : List Node} (h : handle s ancestors scope n st = .ok (out, st')) :
    BindsAt s scope n st st' := by
  cases handle_handled h with
  | declares shape handled =>
    cases handleDeclaration_declaration handled with
    | passes => exact .nothing (.refl st)
    | declares => exact .nothing ((SameBindings.declare ..).trans (.addReferences _ _))
    | imports isImport handled => exact handleImport_bindsAt ⟨ancestors, isImport ▸ shape⟩ handled
  | refers _ refers => exact .nothing (.of_refers refers)

/-- No element is lost. -/
theorem handle_elements {ancestors : List Node} (h : handle s ancestors scope n st = .ok (out, st')) :
    st.findings.elements <+: st'.findings.elements := by
  cases handle_declares h with
  | nothing _ same => exact same.elements.symm ▸ List.prefix_rfl
  | element _ kind name same _ =>
    rw [same.elements, declare_elements]
    exact List.prefix_append _ _

end Handlers

end Visit

/-! ## Where bindings come from -/

/-- The import binds the name to the last thing that it imports under it, and refers to the first. -/
structure Binding.ComesFrom (references : List Reference) (info : ImportInfo) (b : Binding) : Prop where
  specifier : b.specifier = info.module
  last : Visit.lastUnder b.localName info.bindings = some b.importedName
  first : ∃ r ∈ references, r.kind = .imports ∧ r.targetName = b.localName ∧
    r.importedName = Visit.firstUnder b.localName info.bindings ∧
      (r.importedName = some b.importedName → r.modulePath = b.modulePath)

/-- If the import imports nothing else under the name first, its reference agrees with the binding. -/
theorem Binding.ComesFrom.exists_agreesWith {references : List Reference} {info : ImportInfo} {b : Binding}
    (h : b.ComesFrom references info) (first : Visit.firstUnder b.localName info.bindings = some b.importedName) :
    ∃ r ∈ references, b.AgreesWith r := by
  obtain ⟨r, mem, kind, name, imported, file⟩ := h.first
  have same : r.importedName = some b.importedName := imported.trans first
  exact ⟨r, mem, kind, name, file same, same⟩

namespace Visit

/-- A name is bound by a node with the property, and there is a reference to it. That the import refers to what it imports
under the name first is known if no other element has its id. -/
structure IsReferred (s : Subject) (P : Node → Prop) (st : State) (name : String) (b : Binding) : Prop where
  localName : b.localName = name
  referred : ∃ r ∈ st.findings.references, r.kind = .imports ∧ r.targetName = name
  origin : (st.findings.elements.map (·.id)).Nodup →
    ∃ n info, P n ∧ IsImport s n info ∧ b.ComesFrom st.findings.references info

/-- All names that are bound so far are referred to. -/
def AreReferred (s : Subject) (P : Node → Prop) (st : State) : Prop :=
  ∀ name b, st.findings.bindings.get? name = some b → IsReferred s P st name b

section Walk

variable {s : Subject} {P : Node → Prop} {scope : List Element} {n : Node} {st st' : State}

theorem IsReferred.mono {name : String} {b : Binding} (h : IsReferred s P st name b)
    (references : st.findings.references ⊆ st'.findings.references)
    (elements : st.findings.elements <+: st'.findings.elements) : IsReferred s P st' name b := by
  refine ⟨h.localName, ?_, fun distinct => ?_⟩
  · obtain ⟨r, mem, refers⟩ := h.referred
    exact ⟨r, references mem, refers⟩
  · obtain ⟨n, info, holds, isImport, comes⟩ := h.origin (distinct.sublist (elements.sublist.map _))
    obtain ⟨r, mem, refers⟩ := comes.first
    exact ⟨n, info, holds, isImport, comes.specifier, comes.last, r, references mem, refers⟩

/-- A new element that has an id of its own has no references. -/
theorem hasReference_declare (grounded : st.findings.IsGrounded) {kind : ElementKind} {name target : String}
    {relation : RelationKind}
    (distinct : ((declare s scope n kind name st).2.findings.elements.map (·.id)).Nodup) :
    (declare s scope n kind name st).2.hasReference (declare s scope n kind name st).1.id target relation = false := by
  rw [← Bool.not_eq_true, State.hasReference_iff, declare_references]
  rintro ⟨r, mem, source, -, -⟩
  obtain ⟨e, known, same, -⟩ := grounded.starts r mem
  rw [declare_elements, List.map_append, List.nodup_append] at distinct
  exact distinct.2.2 _ (List.mem_map_of_mem known) _ List.mem_cons_self (same.trans source)

/-- Where a node is handled, names stay referred to. -/
theorem AreReferred.handle {ancestors : List Node} {out : Option Element} (h : AreReferred s P st)
    (grounded : st.findings.IsGrounded) (holds : P n) (handled : Visit.handle s ancestors scope n st = .ok (out, st')) :
    AreReferred s P st' := by
  have elements := handle_elements handled
  cases handle_bindsAt handled with
  | nothing same =>
    intro name b found
    rw [same.bindings] at found
    exact (h name b found).mono same.references elements
  | imports info own isImport bound =>
    have listed : st'.findings.elements = (declare s scope n .importDef info.module st).2.findings.elements :=
      (SameOutline.bindAll bound).elements
    have references : st.findings.references ⊆ st'.findings.references := by
      have kept := references_subset_bindAll bound
      rwa [declare_references] at kept
    intro name b found
    rcases get?_bindAll bound name with ⟨-, same⟩ | ⟨imported, member, last, isMember, now⟩
    · rw [same, declare_bindings] at found
      exact (h name b found).mono references elements
    · obtain rfl := Option.some.inj (found.symm.trans now)
      obtain ⟨first, isFirst⟩ := exists_firstUnder last
      refine ⟨rfl, ?_, fun distinct => ⟨n, info, holds, isImport, rfl, last, ?_⟩⟩
      · obtain ⟨r, mem, -, target, kind⟩ := State.hasReference_iff.mp (hasReference_bindAll bound isFirst)
        exact ⟨r, mem, kind, target⟩
      · rw [listed] at distinct
        obtain ⟨member', isMember', mem⟩ := mem_bindAll bound (hasReference_declare grounded distinct) isFirst
        refine ⟨_, mem, rfl, rfl, isFirst.symm, fun same => ?_⟩
        obtain rfl := Option.some.inj same
        obtain rfl := Except.ok.inj (isMember.symm.trans isMember')
        rfl

/-- What is collected stays grounded and referred to. -/
theorem keeps_areReferred (s : Subject) (P : Node → Prop) : Keeps s P fun m => Anchored m ∧ AreReferred s P m.state where
  handled holds before handled :=
    ⟨(handle_changes handled).keep change_anchored before.1, before.2.handle before.1.grounded holds handled⟩
  left {e scope st} before := ⟨change_anchored _ _ before.1 (Change.leave (s := s) e scope st), before.2⟩

/-- All names that are found bound in a tree are referred to. -/
theorem walkTree_areReferred {root : Node} {found : Findings} (h : walkTree s root = .ok found) :
    ∃ m : Moment, AreReferred s (· ∈ root.subtree) m.state ∧ m.state.findings = found := by
  obtain ⟨m, ⟨-, referred⟩, same⟩ := (keeps_areReferred s (· ∈ root.subtree)).walkTree ⟨Anchored.start, nofun⟩ h
  exact ⟨m, referred, same⟩

end Walk

/-- Every name that is found bound in a file has a reference of an import. If the ids of the elements are distinct, an import
of the tree binds it to the last thing that it imports under the name, and there is a reference to the first; if these are
the same, there is a reference to the file and the name that it is bound to. -/
theorem findings_bindings {p : Prepared} {resolver : Option Resolver} {strict : Bool} {runId file : String} {ordinal : Int}
    {tree : Option Tree} {found : Findings} (h : findings p resolver strict runId file ordinal tree = .ok found) :
    ∀ name b, (name, b) ∈ found.bindings.entries → b.localName = name ∧
      (∃ r ∈ found.references, r.kind = .imports ∧ r.targetName = name) ∧
      ((found.elements.map (·.id)).Nodup → ∃ t, tree = some t ∧ ∃ n ∈ t.root.subtree, ∃ info,
        IsImport (subject p resolver runId file ordinal) n info ∧ b.ComesFrom found.references info ∧
          (firstUnder name info.bindings = some b.importedName → ∃ r ∈ found.references, b.AgreesWith r)) := by
  intro name b mem
  unfold findings at h
  split at h
  · cases h
  · rename_i t
    split at h
    · cases h
    · obtain ⟨m, referred, rfl⟩ := walkTree_areReferred h
      obtain ⟨rfl, refers, origin⟩ := referred name b (Table.get?_of_mem mem)
      refine ⟨rfl, refers, fun distinct => ?_⟩
      obtain ⟨n, info, isNode, isImport, comes⟩ := origin distinct
      exact ⟨t, rfl, n, isNode, info, isImport, comes, comes.exists_agreesWith⟩

end Visit

namespace Visit.Sample

/-- A thing that is imported under another name, at a place in a text. -/
def aliased (start : Nat) : Node := .mk "aliased_import" true start (start + 6) (some "name") [
  .mk "dotted_name" true start (start + 1) (some "name") [], .mk "identifier" true (start + 5) (start + 6) (some "alias") []]

/-- An import of things from a module, at a place in a text. -/
def importOf (start stop : Nat) (names : List Node) : Node := .mk "import_from_statement" true start stop none (
  .mk "dotted_name" true (start + 5) (start + 6) (some "module_name") [] :: names)

/-- What is found in a text with imports from the known file `m.py`. -/
def foundIn (text : String) (root : Node) : Except FileFailure Findings :=
  findings ⟨Bundled.python, .python, text.toList⟩ (some (.ofKnown "/repo" ["m.py"] none Resolver.sourceExtensions)) true "run"
    "k.py" 0 (some ⟨root, false⟩)

/-- An import of different things under one name, and its tree. -/
def rebinding : String × Node := ("from m import a as x, b as x",
  .mk "module" true 0 28 none [importOf 0 28 [aliased 14, aliased 22]])

/-- Two imports of different things under one name, and their tree. -/
def twice : String × Node := ("from m import a as x\nfrom m import b as x",
  .mk "module" true 0 41 none [importOf 0 20 [aliased 14], importOf 21 41 [aliased 35]])

/-- The first thing that a node imports under the name `x` is the last one. -/
def importsOnce (text : String) (n : Node) : Bool :=
  match Dialect.python.importInfo? (Text.encode text.toList) n with
  | .ok (some info) => firstUnder "x" info.bindings = lastUnder "x" info.bindings
  | _ => true

end Visit.Sample

open Visit.Sample

/-- If a second import binds a name anew, there is a reference that agrees with the binding. -/
theorem sample_bindings : ∃ found b, foundIn twice.1 twice.2 = .ok found ∧ found.bindings.entries = [("x", b)] ∧
    b.importedName = "b" ∧ ∃ r ∈ found.references, b.AgreesWith r := by
  have visit : (foundIn twice.1 twice.2).map (fun found =>
      (found.bindings.entries, decide (found.elements.map (·.id)).Nodup)) =
        .ok ([("x", ⟨"x", "b", "m", some "m.py"⟩)], true) := by decide +kernel
  have once : ∀ n ∈ twice.2.subtree, importsOnce twice.1 n = true := by decide +kernel
  obtain ⟨found, ok, same⟩ := Except.map_eq_ok_iff.mp visit
  obtain ⟨entries, distinct⟩ := Prod.mk.inj same
  refine ⟨found, _, ok, entries, rfl, ?_⟩
  obtain ⟨-, -, origin⟩ := Visit.findings_bindings ok "x" _ (entries ▸ List.mem_singleton_self _)
  obtain ⟨t, tree, n, isNode, info, isImport, comes, agrees⟩ := origin (of_decide_eq_true distinct)
  obtain rfl := Option.some.inj tree
  have read : Dialect.python.importInfo? (Text.encode twice.1.toList) n = .ok (some info) := isImport.read
  have first := once n isNode
  rw [importsOnce, read, decide_eq_true_iff] at first
  exact agrees (first.trans comes.last)

/-- An import that binds a name twice refers to the first thing and binds the second. -/
theorem sample_rebinding : ∃ found, foundIn rebinding.1 rebinding.2 = .ok found ∧ (found.elements.map (·.id)).Nodup ∧
    ∃ b ∈ found.bindings.values, ∀ r ∈ found.references, ¬ b.AgreesWith r := by
  have visit : (foundIn rebinding.1 rebinding.2).map (fun found => decide ((found.elements.map (·.id)).Nodup ∧
      ∃ b ∈ found.bindings.values, ∀ r ∈ found.references, ¬ b.AgreesWith r)) = .ok true := by decide +kernel
  obtain ⟨found, ok, holds⟩ := Except.map_eq_ok_iff.mp visit
  exact ⟨found, ok, of_decide_eq_true holds⟩

end CodeAtlas
