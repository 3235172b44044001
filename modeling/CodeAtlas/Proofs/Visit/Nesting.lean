import CodeAtlas.Proofs.Text.Position
import CodeAtlas.Proofs.Visit.Outline
import Mathlib.Data.Prod.Lex

/-!
# Elements inside elements

In a nested tree the span of every node lies within the span of its parent (`Node.isNested`). The innermost scope at a node
belongs to a node above it, so what a visit of a nested tree declares stands within the element that contains it, and was
declared later (`Contained`).

- the tasks of a walk fit the scopes that will be open when they are taken up (`Fits`), and every step keeps this;
- so the containments of a whole walk lead from elements to later ones within them (`walk_contained`, `findings_contained`).
-/

namespace CodeAtlas

mutual

/-- The span of each node below the node lies within the span of its parent. -/
def Node.isNested : Node → Bool
  | .mk _ _ start stop _ children => Node.areNestedIn start stop children

/-- The spans of the nodes lie within the given one, and the nodes are nested. -/
def Node.areNestedIn (start stop : Nat) : List Node → Bool
  | [] => true
  | n :: rest => start ≤ n.start && n.stop ≤ stop && n.isNested && Node.areNestedIn start stop rest

end

theorem Node.of_areNestedIn {start stop : Nat} {c : Node} : ∀ {ns : List Node}, areNestedIn start stop ns = true → c ∈ ns →
    start ≤ c.start ∧ c.stop ≤ stop ∧ c.isNested = true
  | n :: ns, h, mem => by
    simp only [areNestedIn, Bool.and_eq_true, decide_eq_true_eq] at h
    obtain ⟨⟨⟨first, last⟩, nested⟩, rest⟩ := h
    rcases List.mem_cons.mp mem with rfl | mem
    · exact ⟨first, last, nested⟩
    · exact of_areNestedIn rest mem

/-- The children of a nested node are nested and lie within it. -/
theorem Node.isNested_child {n c : Node} (h : n.isNested = true) (mem : c ∈ n.children) :
    n.start ≤ c.start ∧ c.stop ≤ n.stop ∧ c.isNested = true := by
  cases n with
  | mk type named start stop field children => exact of_areNestedIn h mem

/-- The first location starts nowhere before the second one and ends nowhere after it; places are compared by line, and by
column within a line. -/
def Location.IsWithin (inner outer : Location) : Prop :=
  toLex (outer.startLine, outer.startColumn) ≤ toLex (inner.startLine, inner.startColumn) ∧
    toLex (inner.endLine, inner.endColumn) ≤ toLex (outer.endLine, outer.endColumn)

/-- Every relation leads from an element to a later one of the same file that stands within it. -/
def Contained (elements : List Element) (relations : List Relation) : Prop :=
  ∀ r ∈ relations, ∃ outer inner, [outer, inner].Sublist elements ∧ outer.id = r.source ∧ inner.id = r.target ∧
    outer.file = inner.file ∧ inner.location.IsWithin outer.location

namespace Contained

variable {es es' : List Element} {rels rels' : List Relation}

theorem nil (es : List Element) : Contained es [] := nofun

/-- Further elements do no harm. -/
theorem of_sublist (h : Contained es rels) (more : es.Sublist es') : Contained es' rels := by
  intro r mem
  obtain ⟨outer, inner, later, rest⟩ := h r mem
  exact ⟨outer, inner, later.trans more, rest⟩

theorem append (h : Contained es rels) (h' : Contained es' rels') : Contained (es ++ es') (rels ++ rels') := by
  intro r mem
  rcases List.mem_append.mp mem with mem | mem
  · exact h.of_sublist (List.sublist_append_left es es') r mem
  · exact h'.of_sublist (List.sublist_append_right es es') r mem

/-- A further element inside one that is there. -/
theorem addContained (h : Contained es rels) {outer inner : Element} (known : outer ∈ es) (file : outer.file = inner.file)
    (within : inner.location.IsWithin outer.location) :
    Contained (es ++ [inner]) (rels ++ [⟨outer.id, inner.id, .contains⟩]) := by
  intro r mem
  rcases List.mem_append.mp mem with mem | mem
  · exact h.of_sublist (List.sublist_append_left es [inner]) r mem
  · obtain rfl := List.mem_singleton.mp mem
    have later : [outer, inner].Sublist (es ++ [inner]) := (List.singleton_sublist.mpr known).append (.refl [inner])
    exact ⟨outer, inner, later, rfl, rfl, file, within⟩

end Contained

namespace Visit

/-- A node whose span lies within that of another one stands within it. -/
theorem locationOf_within (source : List UInt8) {inner outer : Node} (start : outer.start ≤ inner.start)
    (stop : inner.stop ≤ outer.stop) : (locationOf source inner).IsWithin (locationOf source outer) := by
  have first := Text.Position.ofOffset_mono source start
  have last := Text.Position.ofOffset_mono source stop
  simp only [Text.Position.NotAfter] at first last
  constructor
  · rw [Prod.Lex.toLex_le_toLex]
    simp only [locationOf]
    omega
  · rw [Prod.Lex.toLex_le_toLex]
    simp only [locationOf]
    omega

/-- The element is of the visited file and was declared by a node whose span holds that of the given node. -/
structure Covers (s : Subject) (e : Element) (n : Node) : Prop where
  file : e.file = s.file
  span : ∃ outer : Node, e.location = locationOf s.source outer ∧ outer.start ≤ n.start ∧ n.stop ≤ outer.stop

/-- All nodes that are still to be entered are nested, and the element that will be innermost then covers them. -/
def Fits (s : Subject) : List Element → List Task → Prop
  | _, [] => True
  | scope, .leave :: tasks => Fits s scope.tail tasks
  | scope, .enter _ n :: tasks => n.isNested = true ∧ (∀ e, scope.head? = some e → Covers s e n) ∧ Fits s scope tasks

section Steps

variable {s : Subject} {scope : List Element} {st st' : State} {n : Node} {ancestors : List Node} {tasks : List Task}

/-- The children of a nested node fit if the innermost element covers the node. -/
theorem fits_children (nested : n.isNested = true) (covers : ∀ e, scope.head? = some e → Covers s e n)
    (rest : Fits s scope tasks) : Fits s scope (Task.children ancestors n ++ tasks) := by
  have each : ∀ ns : List Node, (∀ c ∈ ns, c ∈ n.children) → Fits s scope (ns.map (.enter (n :: ancestors)) ++ tasks) := by
    intro ns below
    induction ns with
    | nil => exact rest
    | cons c ns ih =>
      obtain ⟨start, stop, nested⟩ := Node.isNested_child nested (below c List.mem_cons_self)
      refine ⟨nested, fun e head => ?_, ih fun c' mem => below c' (List.mem_cons_of_mem c mem)⟩
      obtain ⟨file, outer, location, first, last⟩ := covers e head
      exact ⟨file, outer, location, first.trans start, stop.trans last⟩
  exact each n.children fun _ => id

/-- An element covers the node that declares it. -/
theorem declare_covers (s : Subject) (scope : List Element) (n : Node) (kind : ElementKind) (name : String) (st : State) :
    Covers s (declare s scope n kind name st).1 n := ⟨rfl, n, rfl, Nat.le_refl _, Nat.le_refl _⟩

/-- The scope is made of collected elements, and the containments lead to later elements within. -/
structure Outlined (scope : List Element) (st : State) : Prop where
  scope : ∀ e ∈ scope, e ∈ st.findings.elements
  contained : Contained st.findings.elements st.findings.relations

theorem Outlined.congr (h : Outlined scope st) (same : SameOutline st st') : Outlined scope st' :=
  ⟨same.elements ▸ h.scope, same.elements ▸ same.relations ▸ h.contained⟩

/-- A declaration at a node that the innermost element covers keeps containments within. -/
theorem Outlined.declare (h : Outlined scope st) (covers : ∀ e, scope.head? = some e → Covers s e n) (kind : ElementKind)
    (name : String) : Outlined scope (declare s scope n kind name st).2 := by
  refine ⟨fun e mem => ?_, ?_⟩
  · rw [declare_elements]
    exact List.mem_append_left _ (h.scope e mem)
  · cases scope with
    | nil => exact h.contained.of_sublist (List.sublist_append_left _ _)
    | cons outer scope =>
      obtain ⟨file, span, location, start, stop⟩ := covers outer rfl
      refine h.contained.addContained (h.scope outer List.mem_cons_self) file ?_
      rw [location]
      exact locationOf_within s.source start stop

/-- What a node adds to the outline keeps containments within; a scope that it opens covers the node. -/
theorem Outlined.handled {declared : Bool} {out : Option Element} (h : Outlined scope st)
    (covers : ∀ e, scope.head? = some e → Covers s e n) (declares : Declares s scope n st declared out st') :
    Outlined (out.toList ++ scope) st' ∧ ∀ e, out = some e → Covers s e n := by
  cases declares with
  | nothing _ same => exact ⟨h.congr same, fun e opened => absurd opened (Option.some_ne_none e).symm⟩
  | element _ kind name same opened =>
    have declared := (h.declare covers kind name).congr same
    refine ⟨⟨fun e mem => ?_, declared.contained⟩, fun e some => opened e some ▸ declare_covers s scope n kind name st⟩
    rcases List.mem_append.mp mem with mem | mem
    · rw [opened e (Option.mem_toList.mp mem), same.elements]
      exact declare_mem st s scope n kind name
    · exact declared.scope e mem

end Steps

/-! ## Walks -/

/-- A walk whose tasks fit keeps containments within. -/
theorem walk_contained {s : Subject} (scope : List Element) (st : State) (tasks : List Task) {st' : State}
    (h : walk s scope st tasks = .ok st') (outlined : Outlined scope st) (fits : Fits s scope tasks) :
    Contained st'.findings.elements st'.findings.relations := by
  fun_induction walk s scope st tasks with
  | case1 scope st =>
    obtain rfl : st = st' := Except.ok.inj h
    exact outlined.contained
  | case2 => cases h
  | case3 st tasks e outer ih =>
    exact ih h ⟨fun e mem => outlined.scope e (List.mem_cons_of_mem _ mem), outlined.contained⟩ fits
  | case4 => cases h
  | case5 scope st ancestors n tasks e st₁ handled ih =>
    obtain ⟨nested, covers, rest⟩ := fits
    obtain ⟨outlined, opened⟩ := outlined.handled covers (handle_declares handled)
    -- the children are entered below the new element, which is left again before the tasks that follow
    have below : ∀ e', (e :: scope).head? = some e' → Covers s e' n := fun e' head => opened e' head
    exact ih h outlined (fits_children nested below rest)
  | case6 scope st ancestors n tasks st₁ handled ih =>
    obtain ⟨nested, covers, rest⟩ := fits
    exact ih h (outlined.handled covers (handle_declares handled)).1 (fits_children nested covers rest)

/-- In a nested tree, containments lead from elements to later ones within them. -/
theorem walkTree_contained {s : Subject} {root : Node} {found : Findings} (nested : root.isNested = true)
    (h : walkTree s root = .ok found) : Contained found.elements found.relations := by
  obtain ⟨st', walked, rfl⟩ := Except.map_eq_ok_iff.mp h
  have outlined : Outlined [] .initial := ⟨List.forall_mem_nil _, .nil _⟩
  have fits : Fits s [] [.enter [] root] := ⟨nested, fun e head => absurd head (Option.some_ne_none e).symm, trivial⟩
  exact walk_contained [] .initial _ walked outlined fits

theorem findings_contained {p : Prepared} {resolver : Option Resolver} {strict : Bool} {runId file : String}
    {ordinal : Int} {tree : Option Tree} {found : Findings} (nested : ∀ t, tree = some t → t.root.isNested = true)
    (h : findings p resolver strict runId file ordinal tree = .ok found) : Contained found.elements found.relations := by
  cases tree with
  | none => cases h
  | some t =>
    simp only [findings] at h
    split at h
    · cases h
    · exact walkTree_contained (nested t rfl) h

end Visit

end CodeAtlas
