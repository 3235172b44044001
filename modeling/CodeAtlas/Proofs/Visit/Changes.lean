import CodeAtlas.Proofs.Outcome
import CodeAtlas.Visit
import Mathlib.Logic.Relation

/-!
# What a visit can do

A visit passes from one moment to the next by small changes: an element is declared, a base, an imported name or a mention
is noted down, a scope is opened or closed. `Change` lists them with everything that is known when they happen.

- at each node a declaration is recorded, or the innermost element refers to something at most (`handle_handled`);
- so every handled node is a sequence of changes (`handle_changes`), and so is every walk (`walk_changes`);
- what holds at the start and is kept by each change holds of the findings of a tree (`walkTree_invariant`).
-/

namespace CodeAtlas.Visit

/-- A moment of a visit: the elements around the next node, innermost first, and what has been collected. -/
structure Moment where
  scope : List Element
  state : State

/-- The elements collected up to a moment. -/
def Moment.elements (m : Moment) : List Element := m.state.findings.elements

/-- The moment at which a visit starts. -/
def Moment.start : Moment := ⟨[], .initial⟩

/-- A small change from one moment of a visit to the next. -/
inductive Change (s : Subject) : Moment → Moment → Prop
  /-- A node declares an element. -/
  | declare (scope : List Element) (st : State) (n : Node) (kind : ElementKind) (name : String) :
      Change s ⟨scope, st⟩ ⟨scope, (Visit.declare s scope n kind name st).2⟩
  /-- A class or an interface names a base. -/
  | inherit {scope : List Element} {st : State} {e : Element} {kind : RelationKind} (base : String)
      (known : e ∈ st.findings.elements) (inherits : e.kind = .classDef ∨ e.kind = .interfaceDef)
      (bases : kind = .inherits ∨ kind = .implements) : Change s ⟨scope, st⟩ ⟨scope, refer s e kind st base⟩
  /-- An import binds a name. -/
  | bind {scope : List Element} {st : State} {e : Element} {module imported : String} {path member : Option String}
      (bound : String) (known : e ∈ st.findings.elements) (imports : e.kind = .importDef)
      (found : moduleFile s module = .ok path) (foundMember : memberFile s module imported = .ok member) :
      Change s ⟨scope, st⟩ ⟨scope, (st.bind ⟨bound, imported, module, member.or path⟩).addReference
        ⟨e.id, bound, .imports, s.file, member.or path, some imported⟩⟩
  /-- The innermost element calls or mentions something. -/
  | mention (outer : Element) (scope : List Element) (st : State) {kind : RelationKind} (name : String)
      (mentions : kind = .calls ∨ kind = .references) :
      Change s ⟨outer :: scope, st⟩ ⟨outer :: scope, refer s outer kind st name⟩
  /-- The nodes below an element come next. -/
  | enter {scope : List Element} {st : State} {e : Element} (known : e ∈ st.findings.elements)
      (opens : e.kind ≠ .importDef) : Change s ⟨scope, st⟩ ⟨e :: scope, st⟩
  /-- The nodes below an element are done. -/
  | leave (e : Element) (scope : List Element) (st : State) : Change s ⟨e :: scope, st⟩ ⟨scope, st⟩

/-- Any number of changes. -/
abbrev Changes (s : Subject) : Moment → Moment → Prop := Relation.ReflTransGen (Change s)

/-- The innermost element calls or mentions something, or nothing happens. -/
inductive Refers (s : Subject) : List Element → State → State → Prop
  | nothing (scope : List Element) (st : State) : Refers s scope st st
  | refers (outer : Element) (scope : List Element) (st : State) {kind : RelationKind} (name : String)
      (mentions : kind = .calls ∨ kind = .references) : Refers s (outer :: scope) st (refer s outer kind st name)

/-- What a visit does at a node, with the element that opens a scope. -/
inductive Handled (s : Subject) (ancestors : List Node) (scope : List Element) (n : Node) (st : State) :
    Option Element → State → Prop
  | declares {kind : ElementKind} {out : Option Element} {st' : State}
      (shape : shapeOf? s ancestors n = some (.declares kind))
      (handled : handleDeclaration s scope n kind st = .ok (out, st')) : Handled s ancestors scope n st out st'
  | refers {st' : State} (undeclared : ∀ kind, shapeOf? s ancestors n ≠ some (.declares kind))
      (refers : Refers s scope st st') : Handled s ancestors scope n st none st'

/-! ## What the updates of a state leave alone -/

section Frame

variable (st : State)

@[simp] theorem State.addReference_elements (r : Reference) :
    (st.addReference r).findings.elements = st.findings.elements := by
  unfold State.addReference
  split <;> rfl

@[simp] theorem State.addReference_sequence (r : Reference) : (st.addReference r).sequence = st.sequence := by
  unfold State.addReference
  split <;> rfl

@[simp] theorem State.bind_elements (b : Binding) : (st.bind b).findings.elements = st.findings.elements := rfl

@[simp] theorem State.addReference_relations (r : Reference) :
    (st.addReference r).findings.relations = st.findings.relations := by
  unfold State.addReference
  split <;> rfl

@[simp] theorem State.addReference_bindings (r : Reference) :
    (st.addReference r).findings.bindings = st.findings.bindings := by
  unfold State.addReference
  split <;> rfl

/-- A reference is appended, or one with its source, name and kind is there. -/
theorem State.mem_addReference {r r' : Reference} (h : r' ∈ (st.addReference r).findings.references) :
    r' ∈ st.findings.references ∨ r' = r := by
  unfold State.addReference at h
  split at h
  · exact Or.inl h
  · exact (List.mem_append.mp h).imp_right List.mem_singleton.mp

@[simp] theorem refer_elements (s : Subject) (e : Element) (kind : RelationKind) (name : String) :
    (refer s e kind st name).findings.elements = st.findings.elements := State.addReference_elements st _

@[simp] theorem contain_elements (scope : List Element) (e : Element) :
    (contain scope e st).findings.elements = st.findings.elements := by
  cases scope <;> rfl

/-- A declaration appends its element. -/
@[simp] theorem declare_elements (s : Subject) (scope : List Element) (n : Node) (kind : ElementKind) (name : String) :
    (declare s scope n kind name st).2.findings.elements =
      st.findings.elements ++ [elementOf s n kind name (st.sequence + 1)] := by
  simp only [declare, contain_elements]
  rfl

@[simp] theorem declare_references (s : Subject) (scope : List Element) (n : Node) (kind : ElementKind)
    (name : String) : (declare s scope n kind name st).2.findings.references = st.findings.references := by
  cases scope <;> rfl

@[simp] theorem declare_bindings (s : Subject) (scope : List Element) (n : Node) (kind : ElementKind) (name : String) :
    (declare s scope n kind name st).2.findings.bindings = st.findings.bindings := by
  cases scope <;> rfl

@[simp] theorem declare_sequence (s : Subject) (scope : List Element) (n : Node) (kind : ElementKind) (name : String) :
    (declare s scope n kind name st).2.sequence = st.sequence + 1 := by
  cases scope <;> rfl

theorem declare_mem (s : Subject) (scope : List Element) (n : Node) (kind : ElementKind) (name : String) :
    (declare s scope n kind name st).1 ∈ (declare s scope n kind name st).2.findings.elements := by
  rw [declare_elements]
  exact List.mem_append_right _ (List.mem_singleton_self _)

end Frame

/-! ## Handlers -/

section Handlers

variable {s : Subject} {scope : List Element} {n : Node} {st st' : State}

/-- Noting down bases of an element is a sequence of changes. -/
theorem bases_changes {e : Element} {kind : RelationKind} (inherits : e.kind = .classDef ∨ e.kind = .interfaceDef)
    (bases : kind = .inherits ∨ kind = .implements) : ∀ (names : List String) (st : State),
    e ∈ st.findings.elements → Changes s ⟨scope, st⟩ ⟨scope, names.foldl (refer s e kind) st⟩
  | [], _, _ => .refl
  | name :: names, st, known =>
    .head (.inherit name known inherits bases) (bases_changes inherits bases names _ (by simpa using known))

theorem foldl_refer_elements (e : Element) (kind : RelationKind) (names : List String) (st : State) :
    (names.foldl (refer s e kind) st).findings.elements = st.findings.elements := by
  induction names generalizing st with
  | nil => rfl
  | cons name names ih => rw [List.foldl_cons, ih, refer_elements]

theorem addHeritage_changes {e : Element} (inherits : e.kind = .classDef ∨ e.kind = .interfaceDef)
    (known : e ∈ st.findings.elements) : Changes s ⟨scope, st⟩ ⟨scope, addHeritage s n e st⟩ := by
  refine (bases_changes inherits (Or.inl rfl) _ st known).trans (bases_changes inherits (Or.inr rfl) _ _ ?_)
  rw [foldl_refer_elements]
  exact known

/-- Binding the names of an import is a sequence of changes. -/
theorem bindAll_changes {e : Element} {module : String} {path : Option String} (imports : e.kind = .importDef)
    (found : moduleFile s module = .ok path) : ∀ (names : List (String × String)) (st : State),
    e ∈ st.findings.elements → names.foldlM (bindName s e module path) st = .ok st' →
      Changes s ⟨scope, st⟩ ⟨scope, st'⟩
  | [], st, _, h => by
    obtain rfl : st = st' := Except.ok.inj h
    exact .refl
  | (bound, imported) :: names, st, known, h => by
    rw [List.foldlM_cons] at h
    obtain ⟨st₁, h₁, h⟩ := Except.bind_eq_ok_iff.mp h
    obtain ⟨member, hm, rfl⟩ := Except.map_eq_ok_iff.mp h₁
    refine .head (.bind bound known imports found hm) (bindAll_changes imports found names _ ?_ h)
    rw [State.addReference_elements]
    exact known

/-- Recording an import is a sequence of changes. -/
theorem handleImport_changes (h : handleImport s scope n st = .ok st') : Changes s ⟨scope, st⟩ ⟨scope, st'⟩ := by
  unfold handleImport at h
  obtain ⟨info, -, h⟩ := Except.bind_eq_ok_iff.mp h
  cases info with
  | none =>
    obtain rfl : st = st' := Except.ok.inj h
    exact .refl
  | some info =>
    obtain ⟨path, found, h⟩ := Except.bind_eq_ok_iff.mp (Except.mapError_eq_ok_iff.mp h)
    exact .head (.declare scope st n .importDef info.module)
      (bindAll_changes rfl found info.bindings _ (declare_mem st s scope n .importDef info.module) h)

/-- Recording a declaration is a sequence of changes. -/
theorem declareNamed_changes {kind : ElementKind} {e : Element}
    (h : declareNamed s scope n kind st = .ok (e, st')) :
    Changes s ⟨scope, st⟩ ⟨scope, st'⟩ ∧ e ∈ st'.findings.elements ∧ e.kind = kind := by
  obtain ⟨name, -, h⟩ := Except.map_eq_ok_iff.mp h
  obtain ⟨rfl, rfl⟩ := Prod.mk.inj h
  exact ⟨.single (.declare scope st n kind name), declare_mem st s scope n kind name, rfl⟩

/-- A declaration other than an import ends inside the scope of its element. -/
theorem record_changes {kind : ElementKind} {out : Option Element} (opens : kind ≠ .importDef)
    (h : (declareNamed s scope n kind st).map (fun r => (some r.1, r.2)) = .ok (out, st')) :
    Changes s ⟨scope, st⟩ ⟨out.toList ++ scope, st'⟩ := by
  obtain ⟨⟨e, st₁⟩, h₁, h⟩ := Except.map_eq_ok_iff.mp h
  obtain ⟨rfl, rfl⟩ := Prod.mk.inj h
  obtain ⟨changes, known, rfl⟩ := declareNamed_changes h₁
  exact changes.tail (.enter known opens)

/-- A class or an interface names its bases and ends inside its own scope. -/
theorem recordHeir_changes {kind : ElementKind} {out : Option Element}
    (inherits : kind = .classDef ∨ kind = .interfaceDef)
    (h : (declareNamed s scope n kind st).map (fun r => (some r.1, addHeritage s n r.1 r.2)) = .ok (out, st')) :
    Changes s ⟨scope, st⟩ ⟨out.toList ++ scope, st'⟩ := by
  obtain ⟨⟨e, st₁⟩, h₁, h⟩ := Except.map_eq_ok_iff.mp h
  obtain ⟨rfl, rfl⟩ := Prod.mk.inj h
  obtain ⟨changes, known, rfl⟩ := declareNamed_changes h₁
  refine (changes.trans (addHeritage_changes inherits known)).tail (.enter ?_ ?_)
  · simp only [addHeritage, foldl_refer_elements]
    exact known
  · rcases inherits with hk | hk <;> simp [hk]

theorem functionKind_ne (scope : List Element) : functionKind scope ≠ .importDef := by
  unfold functionKind
  split
  · split <;> decide
  · decide

/-- Recording a declaration is a sequence of changes, whatever it declares. -/
theorem handleDeclaration_changes {kind : ElementKind} {out : Option Element}
    (h : handleDeclaration s scope n kind st = .ok (out, st')) : Changes s ⟨scope, st⟩ ⟨out.toList ++ scope, st'⟩ := by
  cases kind with
  | classDef => exact recordHeir_changes (Or.inl rfl) h
  | interfaceDef => exact recordHeir_changes (Or.inr rfl) h
  | functionDef => exact record_changes (functionKind_ne scope) h
  | methodDef | typeDef | enumDef => exact record_changes (by decide) h
  | variableDef =>
    simp only [handleDeclaration] at h
    split at h
    · obtain ⟨rfl, rfl⟩ := Prod.mk.inj (Except.ok.inj h)
      exact .refl
    · exact record_changes (by split <;> decide) h
  | propertyDef => exact record_changes (by split <;> decide) h
  | importDef =>
    obtain ⟨st₁, h₁, h⟩ := Except.map_eq_ok_iff.mp h
    obtain ⟨rfl, rfl⟩ := Prod.mk.inj h
    exact handleImport_changes h₁

/-- A call refers at most to its callee. -/
theorem handleCall_refers (h : handleCall s scope n st = .ok st') : Refers s scope st st' := by
  cases scope with
  | nil =>
    obtain rfl : st = st' := Except.ok.inj h
    exact .nothing [] st
  | cons outer scope =>
    obtain ⟨callee, -, rfl⟩ := Except.map_eq_ok_iff.mp h
    cases callee with
    | none => exact .nothing _ st
    | some name =>
      dsimp only
      split
      · exact .nothing _ st
      · exact .refers outer scope st name (Or.inl rfl)

/-- A mention refers at most to what the node says. -/
theorem handleMention_refers {ancestors : List Node} (h : handleMention s ancestors scope n st = .ok st') :
    Refers s scope st st' := by
  cases scope with
  | nil =>
    obtain rfl : st = st' := Except.ok.inj h
    exact .nothing [] st
  | cons outer scope =>
    obtain ⟨declared, -, rfl⟩ := Except.map_eq_ok_iff.mp h
    split
    · exact .nothing _ st
    · exact .refers outer scope st _ (Or.inr rfl)

/-- A visit records a declaration, or refers to something at most. -/
theorem handle_handled {ancestors : List Node} {out : Option Element}
    (h : handle s ancestors scope n st = .ok (out, st')) : Handled s ancestors scope n st out st' := by
  unfold handle at h
  cases shape : shapeOf? s ancestors n with
  | none =>
    rw [shape] at h
    obtain ⟨rfl, rfl⟩ := Prod.mk.inj (Except.ok.inj h)
    exact .refers (by simp [shape]) (.nothing scope st)
  | some meaning =>
    rw [shape] at h
    cases meaning with
    | declares kind => exact .declares shape h
    | call =>
      obtain ⟨_, called, h⟩ := Except.map_eq_ok_iff.mp h
      obtain ⟨rfl, rfl⟩ := Prod.mk.inj h
      exact .refers (by simp [shape]) (handleCall_refers called)
    | reference =>
      obtain ⟨_, mentioned, h⟩ := Except.map_eq_ok_iff.mp h
      obtain ⟨rfl, rfl⟩ := Prod.mk.inj h
      exact .refers (by simp [shape]) (handleMention_refers mentioned)

/-- What a visit does at a node is a sequence of changes; it ends inside the scope that the node opens. -/
theorem handle_changes {ancestors : List Node} {out : Option Element}
    (h : handle s ancestors scope n st = .ok (out, st')) : Changes s ⟨scope, st⟩ ⟨out.toList ++ scope, st'⟩ := by
  cases handle_handled h with
  | declares _ handled => exact handleDeclaration_changes handled
  | refers _ refers =>
    cases refers with
    | nothing => exact .refl
    | refers outer scope st name mentions => exact .single (.mention outer scope st name mentions)

end Handlers

/-! ## Walks -/

/-- A walk is a sequence of changes. -/
theorem walk_changes {s : Subject} (scope : List Element) (st : State) (tasks : List Task) {st' : State}
    (h : walk s scope st tasks = .ok st') : ∃ scope', Changes s ⟨scope, st⟩ ⟨scope', st'⟩ := by
  fun_induction walk s scope st tasks with
  | case1 scope st =>
    obtain rfl : st = st' := Except.ok.inj h
    exact ⟨scope, .refl⟩
  | case2 => cases h
  | case3 st tasks e outer ih =>
    obtain ⟨scope', changes⟩ := ih h
    exact ⟨scope', .head (.leave e outer st) changes⟩
  | case4 => cases h
  | case5 scope st ancestors n tasks e st₁ handled ih =>
    obtain ⟨scope', changes⟩ := ih h
    exact ⟨scope', (handle_changes handled).trans changes⟩
  | case6 scope st ancestors n tasks st₁ handled ih =>
    obtain ⟨scope', changes⟩ := ih h
    exact ⟨scope', (handle_changes handled).trans changes⟩

/-- What every change keeps is kept by any number of changes. -/
theorem Changes.keep {s : Subject} {P : Moment → Prop} (step : ∀ m m', P m → Change s m m' → P m') {m m' : Moment}
    (changes : Changes s m m') (h : P m) : P m' := by
  induction changes with
  | refl => exact h
  | tail _ change ih => exact step _ _ ih change

/-- What holds at the start of a visit and is kept by every change holds when the findings of a tree are complete. -/
theorem walkTree_invariant {s : Subject} {P : Moment → Prop} (start : P .start)
    (step : ∀ m m', P m → Change s m m' → P m') {root : Node} {found : Findings}
    (h : walkTree s root = .ok found) : ∃ m, P m ∧ m.state.findings = found := by
  obtain ⟨st', walked, rfl⟩ := Except.map_eq_ok_iff.mp h
  obtain ⟨scope', changes⟩ := walk_changes [] .initial _ walked
  exact ⟨⟨scope', st'⟩, changes.keep step start, rfl⟩

/-- Every collected element names the visited file. -/
def Moment.InFile (s : Subject) (m : Moment) : Prop := ∀ e ∈ m.elements, e.file = s.file

theorem Moment.InFile.start (s : Subject) : Moment.start.InFile s := fun _ mem => absurd mem List.not_mem_nil

theorem Moment.InFile.change {s : Subject} {m m' : Moment} (own : m.InFile s) (change : Change s m m') : m'.InFile s := by
  cases change with
  | declare scope st n kind name =>
    intro e mem
    rw [Moment.elements, declare_elements] at mem
    rcases List.mem_append.mp mem with mem | mem
    · exact own e mem
    · obtain rfl := List.mem_singleton.mp mem
      rfl
  | inherit | bind | mention => simpa [Moment.InFile, Moment.elements] using own
  | enter | leave => exact own

end CodeAtlas.Visit
