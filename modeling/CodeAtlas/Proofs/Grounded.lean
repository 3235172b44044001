import CodeAtlas.Proofs.Visit.Changes

/-!
# Relations that rest on elements

The relations and references that a visit finds start at elements of the same visit, each of a kind that fits
(`Grounded`). Every relation of a visit is a containment, and no element is contained twice: the contained ids are a
sublist of the ids of all elements.

- every change of a visit keeps this (`change_anchored`), so all findings are grounded (`findings_grounded`);
- findings of several files are grounded together (`Grounded.append`).
-/

namespace CodeAtlas

/-- An element of a kind may be where a reference of a kind starts. -/
def RelationKind.startsAt : RelationKind → ElementKind → Bool
  | .calls, k | .references, k => k ≠ .importDef
  | .inherits, k | .implements, k => k = .classDef || k = .interfaceDef
  | .imports, k => k = .importDef
  | .contains, _ => false

/-- The relations and the references rest on the elements. -/
structure Grounded (elements : List Element) (relations : List Relation) (references : List Reference) : Prop where
  /-- Each element is contained at most once, and elements are contained in the order of their declaration. -/
  targets : (relations.map (·.target)).Sublist (elements.map (·.id))
  /-- A relation is a containment in something other than an import. -/
  containers : ∀ r ∈ relations, r.kind = .contains ∧ ∃ e ∈ elements, e.id = r.source ∧ e.kind ≠ .importDef
  /-- A reference starts at an element of a kind that fits. -/
  starts : ∀ r ∈ references, ∃ e ∈ elements, e.id = r.source ∧ r.kind.startsAt e.kind = true

namespace Grounded

theorem nil : Grounded [] [] [] := ⟨.slnil, by simp, by simp⟩

variable {es es' : List Element} {rels rels' : List Relation} {refs refs' : List Reference}

theorem append (h : Grounded es rels refs) (h' : Grounded es' rels' refs') :
    Grounded (es ++ es') (rels ++ rels') (refs ++ refs') := by
  refine ⟨?_, ?_, ?_⟩
  · rw [List.map_append, List.map_append]
    exact h.targets.append h'.targets
  · intro r hr
    rcases List.mem_append.mp hr with hr | hr
    · obtain ⟨kind, e, he, source⟩ := h.containers r hr
      exact ⟨kind, e, List.mem_append_left _ he, source⟩
    · obtain ⟨kind, e, he, source⟩ := h'.containers r hr
      exact ⟨kind, e, List.mem_append_right _ he, source⟩
  · intro r hr
    rcases List.mem_append.mp hr with hr | hr
    · obtain ⟨e, he, source⟩ := h.starts r hr
      exact ⟨e, List.mem_append_left _ he, source⟩
    · obtain ⟨e, he, source⟩ := h'.starts r hr
      exact ⟨e, List.mem_append_right _ he, source⟩

/-- A further element that nothing contains. -/
theorem addElement (h : Grounded es rels refs) (e : Element) : Grounded (es ++ [e]) rels refs := by
  have alone : Grounded [e] [] [] := ⟨List.nil_sublist _, by simp, by simp⟩
  simpa using h.append alone

/-- A further element inside one that is there. -/
theorem addContained (h : Grounded es rels refs) {outer : Element} (e : Element) (known : outer ∈ es)
    (opens : outer.kind ≠ .importDef) : Grounded (es ++ [e]) (rels ++ [⟨outer.id, e.id, .contains⟩]) refs := by
  refine ⟨?_, ?_, (h.addElement e).starts⟩
  · rw [List.map_append, List.map_append]
    exact h.targets.append (.refl _)
  · intro r hr
    rcases List.mem_append.mp hr with hr | hr
    · exact (h.addElement e).containers r hr
    · obtain rfl := List.mem_singleton.mp hr
      exact ⟨rfl, outer, List.mem_append_left _ known, rfl, opens⟩

/-- References that start at elements of kinds that fit may be added. -/
theorem withReferences (h : Grounded es rels refs)
    (starts : ∀ r ∈ refs', r ∈ refs ∨ ∃ e ∈ es, e.id = r.source ∧ r.kind.startsAt e.kind = true) :
    Grounded es rels refs' := by
  refine ⟨h.targets, h.containers, fun r hr => ?_⟩
  rcases starts r hr with hr | hr
  · exact h.starts r hr
  · exact hr

end Grounded

/-- The findings rest on their elements. -/
def Findings.IsGrounded (f : Findings) : Prop := Grounded f.elements f.relations f.references

namespace Visit

/-- The elements around a node have been collected and are no imports, and what has been collected is grounded. -/
structure Anchored (m : Moment) : Prop where
  scope : ∀ e ∈ m.scope, e ∈ m.elements ∧ e.kind ≠ .importDef
  grounded : m.state.findings.IsGrounded

theorem Anchored.start : Anchored .start := ⟨by simp [Moment.start], Grounded.nil⟩

/-- A reference from a collected element keeps the findings grounded. -/
theorem addReference_grounded {st : State} (h : st.findings.IsGrounded) {e : Element} {r : Reference}
    (known : e ∈ st.findings.elements) (source : e.id = r.source) (fits : r.kind.startsAt e.kind = true) :
    (st.addReference r).findings.IsGrounded := by
  unfold Findings.IsGrounded
  rw [State.addReference_elements, State.addReference_relations]
  refine h.withReferences fun r' hr' => ?_
  rcases State.mem_addReference st hr' with hr' | rfl
  · exact Or.inl hr'
  · exact Or.inr ⟨e, known, source, fits⟩

/-- A declaration inside a scope of collected elements keeps the findings grounded. -/
theorem declare_grounded {s : Subject} {scope : List Element} {st : State} (h : Anchored ⟨scope, st⟩) (n : Node)
    (kind : ElementKind) (name : String) : (declare s scope n kind name st).2.findings.IsGrounded := by
  cases scope with
  | nil => exact h.grounded.addElement _
  | cons outer scope =>
    obtain ⟨known, opens⟩ := h.scope outer List.mem_cons_self
    exact h.grounded.addContained _ known opens

/-- Every change keeps the collected findings grounded. -/
theorem change_anchored {s : Subject} (m m' : Moment) (h : Anchored m) (change : Change s m m') : Anchored m' := by
  cases change with
  | declare scope st n kind name =>
    refine ⟨fun e he => ?_, declare_grounded h n kind name⟩
    obtain ⟨known, opens⟩ := h.scope e he
    exact ⟨by rw [Moment.elements, declare_elements]; exact List.mem_append_left _ known, opens⟩
  | @inherit scope st e kind base known inherits bases =>
    refine ⟨by simpa [Moment.elements] using h.scope, addReference_grounded h.grounded known rfl ?_⟩
    rcases inherits with hk | hk <;> rcases bases with rfl | rfl <;> simp [RelationKind.startsAt, hk]
  | @bind scope st e module imported path member bound known imports found foundMember =>
    refine ⟨by simpa [Moment.elements] using h.scope, ?_⟩
    have bound : (st.bind ⟨bound, imported, module, member.or path⟩).findings.IsGrounded := h.grounded
    exact addReference_grounded bound known rfl (by simp [RelationKind.startsAt, imports])
  | mention outer scope st name mentions =>
    obtain ⟨known, opens⟩ := h.scope outer List.mem_cons_self
    refine ⟨by simpa [Moment.elements] using h.scope, addReference_grounded h.grounded known rfl ?_⟩
    rcases mentions with rfl | rfl <;> simp [RelationKind.startsAt, opens]
  | @enter scope st e known opens =>
    refine ⟨fun e' he' => ?_, h.grounded⟩
    rcases List.mem_cons.mp he' with rfl | he'
    · exact ⟨known, opens⟩
    · exact h.scope e' he'
  | leave e scope st => exact ⟨fun e' he' => h.scope e' (List.mem_cons_of_mem _ he'), h.grounded⟩

/-- The findings of a tree are grounded. -/
theorem walkTree_grounded {s : Subject} {root : Node} {found : Findings} (h : walkTree s root = .ok found) :
    found.IsGrounded := by
  obtain ⟨m, anchored, rfl⟩ := walkTree_invariant Anchored.start change_anchored h
  exact anchored.grounded

/-- The findings of a prepared file are grounded. -/
theorem findings_grounded {p : Prepared} {resolver : Option Resolver} {strict : Bool} {runId file : String}
    {ordinal : Int} {tree : Option Tree} {found : Findings}
    (h : findings p resolver strict runId file ordinal tree = .ok found) : found.IsGrounded := by
  unfold findings at h
  split at h
  · cases h
  · split at h
    · cases h
    · exact walkTree_grounded h

end Visit

end CodeAtlas
