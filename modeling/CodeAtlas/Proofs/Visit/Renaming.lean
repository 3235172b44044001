import CodeAtlas.Proofs.Visit.Changes

/-!
# Visits under other ids

Two visits of a file that differ only in the ids they give to elements fail alike, or find the same up to ids. The two
visits are followed step by step. At every moment they have declared the same elements up to ids, and each renaming of ids
that turns the elements of one visit into those of the other, different ids into different ones, turns all that one visit
has collected into what the other one has (`Alike`). Ids are compared when a reference is noted down twice, so a renaming
that joins ids would not do.

- every handled node keeps visits alike (`handle_alike`), and so does every walk (`walk_alike`);
- findings of one tree under different ids are alike (`walkTree_alike`).
-/

namespace CodeAtlas

/-! ## Renaming ids -/

/-- The element under another id. -/
def Element.rename (f : String → String) (e : Element) : Element := { e with id := f e.id }

/-- The element without its id. -/
def Element.anonymous (e : Element) : Element := { e with id := "" }

/-- The relation between elements under other ids. -/
def Relation.rename (f : String → String) (r : Relation) : Relation := ⟨f r.source, f r.target, r.kind⟩

/-- The reference from an element under another id. -/
def Reference.rename (f : String → String) (r : Reference) : Reference := { r with source := f r.source }

/-- The findings under other ids. -/
def Findings.rename (f : String → String) (x : Findings) : Findings where
  elements := x.elements.map (·.rename f)
  relations := x.relations.map (·.rename f)
  references := x.references.map (·.rename f)
  bindings := x.bindings

/-- Renaming turns some elements into others and keeps different ids different. -/
structure Renames (f : String → String) (es es' : List Element) : Prop where
  image : es' = es.map (·.rename f)
  injective : ∀ a ∈ es, ∀ b ∈ es, f a.id = f b.id → a.id = b.id

/-- What renames two lists renames their parts. -/
theorem Renames.of_append {f : String → String} {es₁ es₂ es₁' es₂' : List Element}
    (h : Renames f (es₁ ++ es₂) (es₁' ++ es₂')) (length : es₁'.length = es₁.length) :
    Renames f es₁ es₁' ∧ Renames f es₂ es₂' := by
  have image := h.image
  rw [List.map_append] at image
  obtain ⟨image₁, image₂⟩ := List.append_inj image (by rw [length, List.length_map])
  refine ⟨⟨image₁, fun a ha b hb => ?_⟩, ⟨image₂, fun a ha b hb => ?_⟩⟩
  · exact h.injective a (List.mem_append_left _ ha) b (List.mem_append_left _ hb)
  · exact h.injective a (List.mem_append_right _ ha) b (List.mem_append_right _ hb)

namespace Visit

/-- The state under other ids. -/
def State.rename (f : String → String) (st : State) : State := ⟨st.findings.rename f, st.sequence⟩

/-- The subject with other ids. -/
def Subject.withIdent (s : Subject) (ident : Nat → Node → String) : Subject := { s with ident := ident }

/-- The reference was noted down before under the new ids if it was under the old ones. -/
theorem hasReference_rename {f : String → String} {st : State} {source : String}
    (injective : ∀ r ∈ st.findings.references, f r.source = f source → r.source = source) (name : String)
    (kind : RelationKind) :
    (st.rename f).hasReference (f source) name kind = st.hasReference source name kind := by
  unfold State.hasReference
  rw [Bool.eq_iff_iff]
  simp only [State.rename, Findings.rename, List.any_map, List.any_eq_true, Function.comp_apply]
  refine exists_congr fun r => and_congr_right fun mem => ?_
  have same : f r.source = f source ↔ r.source = source := ⟨injective r mem, fun h => by rw [h]⟩
  show (decide (f r.source = f source) && decide (r.targetName = name) && decide (r.kind = kind)) = true ↔ _
  simp [same]

/-- Noting down a reference commutes with a renaming that keeps its source apart from others. -/
theorem addReference_rename {f : String → String} {st : State} {r : Reference}
    (injective : ∀ r' ∈ st.findings.references, f r'.source = f r.source → r'.source = r.source) :
    (st.rename f).addReference (r.rename f) = (st.addReference r).rename f := by
  have same : (st.rename f).hasReference (r.rename f).source (r.rename f).targetName (r.rename f).kind =
      st.hasReference r.source r.targetName r.kind := hasReference_rename injective r.targetName r.kind
  unfold State.addReference
  rw [same]
  split
  · rfl
  · simp [State.rename, Findings.rename]

/-- Declaring an element commutes with a renaming that gives it its id. -/
theorem declare_rename {f : String → String} {s : Subject} {ident : Nat → Node → String} {st : State} {n : Node}
    (named : f (s.ident (st.sequence + 1) n) = ident (st.sequence + 1) n) (scope : List Element) (kind : ElementKind)
    (name : String) :
    declare (s.withIdent ident) (scope.map (·.rename f)) n kind name (st.rename f) =
      ((declare s scope n kind name st).1.rename f, (declare s scope n kind name st).2.rename f) := by
  have element : elementOf (s.withIdent ident) n kind name (st.sequence + 1) =
      (elementOf s n kind name (st.sequence + 1)).rename f := by
    simp only [elementOf, Element.rename, named]
    rfl
  cases scope with
  | nil =>
    simp only [declare, contain, State.rename, element]
    simp [State.addElement, Findings.rename]
  | cons outer scope =>
    simp only [declare, contain, State.rename, element]
    simp [State.addElement, State.addRelation, Findings.rename, Relation.rename, Element.rename]

/-! ## Visits that are alike -/

/-- Two visits are at moments that differ only in ids. -/
structure Alike (m m' : Moment) : Prop where
  /-- The first visit has collected the elements around the next node. -/
  inside : ∀ e ∈ m.scope, e ∈ m.elements
  /-- The first visit has collected the elements that references start at. -/
  sources : ∀ r ∈ m.state.findings.references, ∃ e ∈ m.elements, e.id = r.source
  kinds : m'.scope.map (·.kind) = m.scope.map (·.kind)
  elements : m'.elements.map (·.anonymous) = m.elements.map (·.anonymous)
  sequence : m'.state.sequence = m.state.sequence
  renamed : ∀ f, Renames f m.elements m'.elements →
    m'.scope = m.scope.map (·.rename f) ∧ m'.state = m.state.rename f

/-- Two elements correspond to each other in two visits. -/
structure Twin (m m' : Moment) (e e' : Element) : Prop where
  known : e ∈ m.elements
  kind : e'.kind = e.kind
  renamed : ∀ f, Renames f m.elements m'.elements → e' = e.rename f

namespace Alike

variable {s : Subject} {ident : Nat → Node → String} {scope scope' : List Element} {st st' : State} {e e' : Element}

theorem length (h : Alike ⟨scope, st⟩ ⟨scope', st'⟩) :
    st'.findings.elements.length = st.findings.elements.length := by
  simpa [Moment.elements] using congrArg List.length h.elements

/-- Two visits start alike. -/
theorem start : Alike .start .start := by
  refine ⟨by simp [Moment.start], by simp [Moment.start, State.initial, Findings.none], rfl, rfl, rfl, fun f _ => ?_⟩
  simp [Moment.start, State.initial, Findings.none, State.rename, Findings.rename]

/-- Entering the scopes of corresponding elements. -/
theorem enter (h : Alike ⟨scope, st⟩ ⟨scope', st'⟩) (twin : Twin ⟨scope, st⟩ ⟨scope', st'⟩ e e') :
    Alike ⟨e :: scope, st⟩ ⟨e' :: scope', st'⟩ := by
  refine ⟨?_, h.sources, ?_, h.elements, h.sequence, fun f renames => ?_⟩
  · intro x hx
    rcases List.mem_cons.mp hx with rfl | hx
    · exact twin.known
    · exact h.inside x hx
  · have := h.kinds
    simp only [List.map_cons, twin.kind] at this ⊢
    rw [this]
  · obtain ⟨hscope, hstate⟩ := h.renamed f renames
    simp only at hscope hstate ⊢
    exact ⟨by rw [twin.renamed f renames, hscope, List.map_cons], hstate⟩

/-- Leaving scopes. -/
theorem leave (h : Alike ⟨e :: scope, st⟩ ⟨e' :: scope', st'⟩) : Alike ⟨scope, st⟩ ⟨scope', st'⟩ := by
  refine ⟨fun x hx => h.inside x (List.mem_cons_of_mem _ hx), h.sources, ?_, h.elements, h.sequence,
    fun f renames => ?_⟩
  · exact (List.cons.inj h.kinds).2
  · obtain ⟨hscope, hstate⟩ := h.renamed f renames
    exact ⟨(List.cons.inj hscope).2, hstate⟩

/-- There are as many elements around the next nodes. -/
theorem scopes (h : Alike ⟨scope, st⟩ ⟨scope', st'⟩) : (scope = [] ∧ scope' = []) ∨
    ∃ outer inner outer' inner', scope = outer :: inner ∧ scope' = outer' :: inner' := by
  cases scope with
  | nil => exact Or.inl ⟨rfl, List.map_eq_nil_iff.mp h.kinds⟩
  | cons outer inner =>
    cases scope' with
    | nil => cases h.kinds
    | cons outer' inner' => exact Or.inr ⟨outer, inner, outer', inner', rfl, rfl⟩

/-- The innermost elements around the next nodes correspond to each other. -/
theorem head_twin (h : Alike ⟨e :: scope, st⟩ ⟨e' :: scope', st'⟩) :
    Twin ⟨e :: scope, st⟩ ⟨e' :: scope', st'⟩ e e' :=
  ⟨h.inside e List.mem_cons_self, (List.cons.inj h.kinds).1,
    fun f renames => (List.cons.inj (h.renamed f renames).1).1⟩

/-- Corresponding elements refer to the same thing. -/
theorem addReference (h : Alike ⟨scope, st⟩ ⟨scope', st'⟩) (twin : Twin ⟨scope, st⟩ ⟨scope', st'⟩ e e')
    {r r' : Reference} (source : r.source = e.id) (same : r' = { r with source := e'.id }) :
    Alike ⟨scope, st.addReference r⟩ ⟨scope', st'.addReference r'⟩ := by
  refine ⟨?_, ?_, h.kinds, ?_, ?_, fun f renames => ?_⟩
  · simpa [Moment.elements] using h.inside
  · intro x hx
    simp only [Moment.elements, State.addReference_elements]
    rcases State.mem_addReference st hx with hx | rfl
    · exact h.sources x hx
    · exact ⟨e, twin.known, source.symm⟩
  · simpa [Moment.elements] using h.elements
  · simpa using h.sequence
  · simp only [Moment.elements, State.addReference_elements] at renames
    obtain ⟨hscope, hstate⟩ := h.renamed f renames
    refine ⟨hscope, ?_⟩
    have hr : r' = r.rename f := by
      rw [same, twin.renamed f renames, Reference.rename, source]
      rfl
    simp only at hstate ⊢
    rw [hstate, hr]
    refine addReference_rename fun x hx eq => ?_
    obtain ⟨a, ha, hid⟩ := h.sources x hx
    rw [← hid, source] at eq ⊢
    exact renames.injective a ha e twin.known eq

/-- Both visits bind the same name. -/
theorem bind (h : Alike ⟨scope, st⟩ ⟨scope', st'⟩) (b : Binding) : Alike ⟨scope, st.bind b⟩ ⟨scope', st'.bind b⟩ := by
  refine ⟨h.inside, h.sources, h.kinds, h.elements, h.sequence, fun f renames => ?_⟩
  obtain ⟨hscope, hstate⟩ := h.renamed f renames
  simp only at hstate ⊢
  exact ⟨hscope, by rw [hstate]; rfl⟩

/-- The same node declares corresponding elements. -/
theorem declare (h : Alike ⟨scope, st⟩ ⟨scope', st'⟩) (s : Subject) (ident : Nat → Node → String) (n : Node)
    (kind : ElementKind) (name : String) :
    let x := Visit.declare s scope n kind name st
    let x' := Visit.declare (s.withIdent ident) scope' n kind name st'
    Alike ⟨scope, x.2⟩ ⟨scope', x'.2⟩ ∧ Twin ⟨scope, x.2⟩ ⟨scope', x'.2⟩ x.1 x'.1 := by
  intro x x'
  have sequence : st'.sequence = st.sequence := h.sequence
  -- a renaming of the new elements renames the old ones and gives the declared element its id
  have renamed : ∀ f, Renames f (Moment.elements ⟨scope, x.2⟩) (Moment.elements ⟨scope', x'.2⟩) →
      scope' = scope.map (·.rename f) ∧ x' = (x.1.rename f, x.2.rename f) := by
    intro f renames
    simp only [Moment.elements, x, x', declare_elements] at renames
    obtain ⟨old, new⟩ := renames.of_append h.length
    obtain ⟨hscope, hstate⟩ := h.renamed f old
    have named := congrArg Element.id (List.cons.inj new.image).1
    simp only [sequence] at named hscope hstate
    refine ⟨hscope, ?_⟩
    simp only [x', hscope, hstate]
    exact declare_rename named.symm scope kind name
  refine ⟨⟨?_, ?_, h.kinds, ?_, ?_, fun f renames => ?_⟩, ⟨?_, rfl, fun f renames => ?_⟩⟩
  · intro y hy
    simp only [Moment.elements, x, declare_elements]
    exact List.mem_append_left _ (h.inside y hy)
  · intro r hr
    simp only [Moment.elements, x, declare_elements, declare_references] at hr ⊢
    obtain ⟨a, ha, hid⟩ := h.sources r hr
    exact ⟨a, List.mem_append_left _ ha, hid⟩
  · have := h.elements
    simp only [Moment.elements, x, x', declare_elements, List.map_append, sequence] at this ⊢
    rw [this]
    rfl
  · simp only [x, x', declare_sequence, sequence]
  · obtain ⟨hscope, hx⟩ := renamed f renames
    exact ⟨hscope, congrArg Prod.snd hx⟩
  · exact declare_mem st s scope n kind name
  · exact congrArg Prod.fst (renamed f renames).2

end Alike

/-- Elements that correspond to each other do so while no elements are added. -/
theorem Twin.of_elements {m m' m₁ m₁' : Moment} {e e' : Element} (h : Twin m m' e e')
    (same : m₁.elements = m.elements) (same' : m₁'.elements = m'.elements) : Twin m₁ m₁' e e' :=
  ⟨same ▸ h.known, h.kind, fun f renames => h.renamed f (by rwa [same, same'] at renames)⟩

/-! ## Handlers -/

section Handlers

variable {s : Subject} {ident : Nat → Node → String} {scope scope' : List Element} {st st' : State} {e e' : Element}
  {n : Node}

/-- Corresponding elements refer to the same name. -/
theorem refer_alike (h : Alike ⟨scope, st⟩ ⟨scope', st'⟩) (twin : Twin ⟨scope, st⟩ ⟨scope', st'⟩ e e')
    (kind : RelationKind) (name : String) :
    Alike ⟨scope, refer s e kind st name⟩ ⟨scope', refer (s.withIdent ident) e' kind st' name⟩ :=
  h.addReference twin rfl rfl

theorem bases_alike (kind : RelationKind) : ∀ (names : List String) {st st' : State},
    Alike ⟨scope, st⟩ ⟨scope', st'⟩ → Twin ⟨scope, st⟩ ⟨scope', st'⟩ e e' →
      Alike ⟨scope, names.foldl (refer s e kind) st⟩ ⟨scope', names.foldl (refer (s.withIdent ident) e' kind) st'⟩
  | [], _, _, h, _ => h
  | name :: names, st, st', h, twin =>
    bases_alike kind names (refer_alike h twin kind name)
      (twin.of_elements (refer_elements st s e kind name) (refer_elements st' _ e' kind name))

theorem addHeritage_alike (h : Alike ⟨scope, st⟩ ⟨scope', st'⟩) (twin : Twin ⟨scope, st⟩ ⟨scope', st'⟩ e e') :
    Alike ⟨scope, addHeritage s n e st⟩ ⟨scope', addHeritage (s.withIdent ident) n e' st'⟩ :=
  bases_alike .implements _ (bases_alike .inherits _ h twin)
    (twin.of_elements (foldl_refer_elements e _ _ st) (foldl_refer_elements e' _ _ st'))

theorem bindAll_alike {module : String} {path : Option String} : ∀ (names : List (String × String)) {st st' : State},
    Alike ⟨scope, st⟩ ⟨scope', st'⟩ → Twin ⟨scope, st⟩ ⟨scope', st'⟩ e e' →
      Except.Related (fun x y => Alike ⟨scope, x⟩ ⟨scope', y⟩) (names.foldlM (bindName s e module path) st)
        (names.foldlM (bindName (s.withIdent ident) e' module path) st')
  | [], _, _, h, _ => .ok h
  | (bound, imported) :: names, st, st', h, twin => by
    rw [List.foldlM_cons, List.foldlM_cons]
    have member : memberFile (s.withIdent ident) module imported = memberFile s module imported := rfl
    simp only [bindName, member]
    cases memberFile s module imported with
    | error error => exact .error error
    | ok file =>
      have same : Twin ⟨scope, st.bind ⟨bound, imported, module, file.or path⟩⟩
          ⟨scope', st'.bind ⟨bound, imported, module, file.or path⟩⟩ e e' := twin.of_elements rfl rfl
      refine bindAll_alike names ((h.bind _).addReference same rfl rfl) (twin.of_elements ?_ ?_)
      · exact State.addReference_elements _ _
      · exact State.addReference_elements _ _

theorem handleImport_alike (h : Alike ⟨scope, st⟩ ⟨scope', st'⟩) :
    Except.Related (fun x y => Alike ⟨scope, x⟩ ⟨scope', y⟩) (handleImport s scope n st)
      (handleImport (s.withIdent ident) scope' n st') := by
  unfold handleImport
  refine Except.Related.bind (R := Eq) (.of_eq fun _ _ => rfl) ?_
  rintro info _ rfl
  cases info with
  | none => exact .ok h
  | some info =>
    obtain ⟨declared, twin⟩ := h.declare s ident n .importDef info.module
    refine Except.Related.mapError ?_ _
    refine Except.Related.bind (R := Eq) (.of_eq fun _ _ => rfl) ?_
    rintro path _ rfl
    exact bindAll_alike info.bindings declared twin

/-- The same node declares corresponding elements under the same name, or has a name that cannot be read. -/
theorem declareNamed_alike (h : Alike ⟨scope, st⟩ ⟨scope', st'⟩) (kind : ElementKind) :
    Except.Related (fun x y => Alike ⟨scope, x.2⟩ ⟨scope', y.2⟩ ∧ Twin ⟨scope, x.2⟩ ⟨scope', y.2⟩ x.1 y.1)
      (declareNamed s scope n kind st) (declareNamed (s.withIdent ident) scope' n kind st') := by
  refine Except.Related.map (R := Eq) (.of_eq fun _ _ => rfl) ?_
  rintro name _ rfl
  exact h.declare s ident n kind name

/-- What two visits do at a node leaves them alike, inside the scopes that the node opens. -/
def AlikeAfter (scope scope' : List Element) (x y : Option Element × State) : Prop :=
  y.1.isSome = x.1.isSome ∧ Alike ⟨x.1.toList ++ scope, x.2⟩ ⟨y.1.toList ++ scope', y.2⟩

theorem record_alike (h : Alike ⟨scope, st⟩ ⟨scope', st'⟩) (kind : ElementKind) :
    Except.Related (AlikeAfter scope scope') ((declareNamed s scope n kind st).map fun r => (some r.1, r.2))
      ((declareNamed (s.withIdent ident) scope' n kind st').map fun r => (some r.1, r.2)) :=
  (declareNamed_alike h kind).map fun _ _ declared => ⟨rfl, declared.1.enter declared.2⟩

theorem recordHeir_alike (h : Alike ⟨scope, st⟩ ⟨scope', st'⟩) (kind : ElementKind) :
    Except.Related (AlikeAfter scope scope')
      ((declareNamed s scope n kind st).map fun r => (some r.1, addHeritage s n r.1 r.2))
      ((declareNamed (s.withIdent ident) scope' n kind st').map fun r =>
        (some r.1, addHeritage (s.withIdent ident) n r.1 r.2)) := by
  refine (declareNamed_alike h kind).map fun x y declared => ⟨rfl, ?_⟩
  refine (addHeritage_alike declared.1 declared.2).enter (declared.2.of_elements ?_ ?_)
  · simp only [Moment.elements, addHeritage, foldl_refer_elements]
  · simp only [Moment.elements, addHeritage, foldl_refer_elements]

theorem functionKind_alike (h : Alike ⟨scope, st⟩ ⟨scope', st'⟩) : functionKind scope' = functionKind scope := by
  rcases h.scopes with ⟨rfl, rfl⟩ | ⟨outer, inner, outer', inner', rfl, rfl⟩
  · rfl
  · simp only [functionKind, h.head_twin.kind]

theorem handleDeclaration_alike (h : Alike ⟨scope, st⟩ ⟨scope', st'⟩) (kind : ElementKind) :
    Except.Related (AlikeAfter scope scope') (handleDeclaration s scope n kind st)
      (handleDeclaration (s.withIdent ident) scope' n kind st') := by
  cases kind with
  | classDef | interfaceDef => exact recordHeir_alike h _
  | functionDef =>
    simp only [handleDeclaration, functionKind_alike h]
    exact record_alike h _
  | methodDef | typeDef | enumDef | propertyDef => exact record_alike h _
  | variableDef =>
    have value : variableValue? (s.withIdent ident) n = variableValue? s n := rfl
    simp only [handleDeclaration, value]
    cases variableValue? s n with
    | none => exact .ok ⟨rfl, h⟩
    | some value => exact record_alike h _
  | importDef => exact (handleImport_alike h).map fun _ _ alike => ⟨rfl, alike⟩

theorem handleCall_alike (h : Alike ⟨scope, st⟩ ⟨scope', st'⟩) :
    Except.Related (fun x y => Alike ⟨scope, x⟩ ⟨scope', y⟩) (handleCall s scope n st)
      (handleCall (s.withIdent ident) scope' n st') := by
  rcases h.scopes with ⟨rfl, rfl⟩ | ⟨outer, inner, outer', inner', rfl, rfl⟩
  · exact .ok h
  · refine Except.Related.map (R := Eq) (.of_eq fun _ _ => rfl) ?_
    rintro callee _ rfl
    split
    · split
      · exact h
      · exact refer_alike h h.head_twin _ _
    · exact h

theorem inHeritage_withIdent (ancestors : List Node) :
    inHeritage (s.withIdent ident) ancestors = inHeritage s ancestors := by
  induction ancestors with
  | nil => rfl
  | cons a above ih =>
    simp only [inHeritage, ih]
    rfl

theorem handleMention_alike (h : Alike ⟨scope, st⟩ ⟨scope', st'⟩) (ancestors : List Node) :
    Except.Related (fun x y => Alike ⟨scope, x⟩ ⟨scope', y⟩) (handleMention s ancestors scope n st)
      (handleMention (s.withIdent ident) ancestors scope' n st') := by
  rcases h.scopes with ⟨rfl, rfl⟩ | ⟨outer, inner, outer', inner', rfl, rfl⟩
  · exact .ok h
  · refine Except.Related.map (R := Eq) (.of_eq fun _ _ => rfl) ?_
    rintro declared _ rfl
    simp only [inHeritage_withIdent]
    split
    · exact h
    · exact refer_alike h h.head_twin _ _

/-- What two visits do at the same node keeps them alike. -/
theorem handle_alike (s : Subject) (ident : Nat → Node → String) (n : Node) (h : Alike ⟨scope, st⟩ ⟨scope', st'⟩)
    (ancestors : List Node) :
    Except.Related (AlikeAfter scope scope') (handle s ancestors scope n st)
      (handle (s.withIdent ident) ancestors scope' n st') := by
  have shape : shapeOf? (s.withIdent ident) ancestors n = shapeOf? s ancestors n := rfl
  simp only [handle, shape]
  split
  · exact .ok ⟨rfl, h⟩
  · exact handleDeclaration_alike h _
  · exact (handleCall_alike h).map fun _ _ alike => ⟨rfl, alike⟩
  · exact (handleMention_alike h ancestors).map fun _ _ alike => ⟨rfl, alike⟩

end Handlers

/-! ## Walks -/

/-- Walks over the same tasks fail alike or end alike. -/
theorem walk_alike {s : Subject} {ident : Nat → Node → String} (scope : List Element) (st : State) (tasks : List Task)
    {scope' : List Element} {st' : State} (h : Alike ⟨scope, st⟩ ⟨scope', st'⟩) :
    Except.Related (fun x y => ∃ scope scope', Alike ⟨scope, x⟩ ⟨scope', y⟩) (walk s scope st tasks)
      (walk (s.withIdent ident) scope' st' tasks) := by
  fun_induction walk s scope st tasks generalizing scope' st' with
  | case1 scope st =>
    rw [walk]
    exact .ok ⟨scope, scope', h⟩
  | case2 st tasks =>
    have empty : scope' = [] := List.map_eq_nil_iff.mp h.kinds
    rw [empty, walk]
    exact .error _
  | case3 st tasks e outer ih =>
    rcases h.scopes with ⟨absurd, -⟩ | ⟨_, _, outer', inner', same, rfl⟩
    · cases absurd
    · obtain ⟨rfl, rfl⟩ := List.cons.inj same
      rw [walk]
      exact ih h.leave
  | case4 scope st ancestors n tasks e failed =>
    have after := handle_alike s ident n h ancestors
    rw [failed] at after
    rw [walk, after.error_left]
    exact .error _
  | case5 scope st ancestors n tasks e st₁ handled ih =>
    have after := handle_alike s ident n h ancestors
    rw [handled] at after
    obtain ⟨⟨out, st₁'⟩, handled', opened, alike⟩ := after.ok_left
    obtain ⟨e', rfl⟩ := Option.isSome_iff_exists.mp opened
    rw [walk, handled']
    exact ih alike
  | case6 scope st ancestors n tasks st₁ handled ih =>
    have after := handle_alike s ident n h ancestors
    rw [handled] at after
    obtain ⟨⟨out, st₁'⟩, handled', closed, alike⟩ := after.ok_left
    obtain rfl : out = none := by simpa using closed
    rw [walk, handled']
    exact ih alike

/-- The findings differ only in ids. -/
structure FoundAlike (x y : Findings) : Prop where
  elements : y.elements.map (·.anonymous) = x.elements.map (·.anonymous)
  renamed : ∀ f, Renames f x.elements y.elements → y = x.rename f

/-- A tree gives the same failure or the same findings, up to ids, whatever ids its elements get. -/
theorem walkTree_alike (s : Subject) (ident : Nat → Node → String) (root : Node) :
    Except.Related FoundAlike (walkTree s root) (walkTree (s.withIdent ident) root) := by
  refine (walk_alike [] .initial _ Alike.start).map fun x y alike => ?_
  obtain ⟨scope, scope', alike⟩ := alike
  exact ⟨alike.elements, fun f renames => congrArg State.findings (alike.renamed f renames).2⟩

end Visit

end CodeAtlas
