import CodeAtlas.Proofs.Visit.Changes

/-!
# What a node adds to the outline of a file

The elements and relations that a visit has collected are the outline of its file. At each node a visit leaves the outline
as it is, or adds the one element that the node declares, inside the innermost scope, and the scope that the node opens is
that of its element (`Declares`, `handle_declares`); which nodes declare elements can be told beforehand
(`declaresElement`). References and bindings do not touch the outline (`SameOutline`).
-/

namespace CodeAtlas.Visit

/-- Both states have collected the same elements and relations. -/
structure SameOutline (st st' : State) : Prop where
  elements : st'.findings.elements = st.findings.elements
  relations : st'.findings.relations = st.findings.relations
  sequence : st'.sequence = st.sequence

namespace SameOutline

variable {st st' st'' : State}

theorem refl (st : State) : SameOutline st st := ⟨rfl, rfl, rfl⟩

theorem trans (h : SameOutline st st') (h' : SameOutline st' st'') : SameOutline st st'' :=
  ⟨h'.elements.trans h.elements, h'.relations.trans h.relations, h'.sequence.trans h.sequence⟩

theorem addReference (st : State) (r : Reference) : SameOutline st (st.addReference r) :=
  ⟨State.addReference_elements st r, State.addReference_relations st r, State.addReference_sequence st r⟩

/-- Further references do not touch the outline. -/
theorem addReferences : ∀ (references : List Reference) (st : State),
    SameOutline st (references.foldl State.addReference st)
  | [], st => refl st
  | r :: references, st => (addReference st r).trans (addReferences references _)

/-- Binding the names of an import does not touch the outline. -/
theorem bindAll {s : Subject} {e : Element} {module : String} {path : Option String} :
    ∀ {names : List (String × String)} {st st' : State},
      names.foldlM (bindName s e module path) st = .ok st' → SameOutline st st'
  | [], st, st', h => by
    obtain rfl : st = st' := Except.ok.inj h
    exact refl st
  | (bound, imported) :: names, st, st', h => by
    rw [List.foldlM_cons] at h
    obtain ⟨st₁, h₁, h⟩ := Except.bind_eq_ok_iff.mp h
    obtain ⟨member, -, rfl⟩ := Except.map_eq_ok_iff.mp h₁
    have bind : SameOutline st (st.bind ⟨bound, imported, module, member.or path⟩) := ⟨rfl, rfl, rfl⟩
    exact (bind.trans (addReference _ _)).trans (bindAll h)

end SameOutline

/-- A node that stands for a declaration of the kind declares an element. -/
def declaresKind (s : Subject) (n : Node) : ElementKind → Bool
  | .importDef =>
    match s.dialect.importInfo? s.source n with
    | .ok (some _) => true
    | _ => false
  | .variableDef => (variableValue? s n).isSome && (nameOf s n).isOk
  | _ => (nameOf s n).isOk

/-- The node declares an element. An import does so also if the visit fails afterwards, because what it imports cannot be
looked up. -/
def declaresElement (s : Subject) (ancestors : List Node) (n : Node) : Bool :=
  match shapeOf? s ancestors n with
  | some (.declares kind) => declaresKind s n kind
  | _ => false

/-- What happens to the outline at a node that declares an element or does not; only that element opens a scope. -/
inductive Declares (s : Subject) (scope : List Element) (n : Node) (st : State) (declared : Bool) :
    Option Element → State → Prop
  | nothing {st' : State} (silent : declared = false) (same : SameOutline st st') : Declares s scope n st declared none st'
  | element {st' : State} {out : Option Element} (declares : declared = true) (kind : ElementKind) (name : String)
      (same : SameOutline (declare s scope n kind name st).2 st')
      (opened : ∀ e, out = some e → e = (declare s scope n kind name st).1) : Declares s scope n st declared out st'

/-- What a visit does at a node that stands for a declaration of a kind. -/
inductive Declaration (s : Subject) (scope : List Element) (n : Node) (st : State) (kind : ElementKind) :
    Option Element → State → Prop
  /-- A variable that binds no name of its own is passed over. -/
  | passes (isVariable : kind = .variableDef) (unbound : variableValue? s n = none) :
      Declaration s scope n st kind none st
  /-- An element is declared, and references of it are added. -/
  | declares {name : String} (named : nameOf s n = .ok name) (other : kind ≠ .importDef)
      (bound : kind = .variableDef → (variableValue? s n).isSome = true) (own : ElementKind) (references : List Reference) :
      Declaration s scope n st kind (some (declare s scope n own name st).1)
        (references.foldl State.addReference (declare s scope n own name st).2)
  | imports {st' : State} (isImport : kind = .importDef) (handled : handleImport s scope n st = .ok st') :
      Declaration s scope n st kind none st'

section Handlers

variable {s : Subject} {scope : List Element} {n : Node} {st st' : State} {out : Option Element}

theorem handleImport_declares (h : handleImport s scope n st = .ok st') :
    Declares s scope n st (declaresKind s n .importDef) none st' := by
  unfold handleImport at h
  obtain ⟨info, read, h⟩ := Except.bind_eq_ok_iff.mp h
  cases info with
  | none =>
    obtain rfl : st = st' := Except.ok.inj h
    exact .nothing (by simp [declaresKind, read]) (.refl st)
  | some info =>
    obtain ⟨path, -, h⟩ := Except.bind_eq_ok_iff.mp (Except.mapError_eq_ok_iff.mp h)
    exact .element (by simp [declaresKind, read]) .importDef info.module (.bindAll h) fun e opened =>
      absurd opened (Option.some_ne_none e).symm

/-- The bases of a class or an interface are added as references. -/
theorem addHeritage_eq (s : Subject) (n : Node) (e : Element) (st : State) :
    ∃ references : List Reference, addHeritage s n e st = references.foldl State.addReference st := by
  unfold addHeritage
  extract_lets h
  refine ⟨h.extended.map (fun base => ⟨e.id, base, .inherits, s.file, none, none⟩) ++
    h.implemented.map (fun base => ⟨e.id, base, .implements, s.file, none, none⟩), ?_⟩
  rw [List.foldl_append, List.foldl_map, List.foldl_map]
  rfl

/-- A declaration that records further references of its element declares that element. -/
theorem record_declaration {kind own : ElementKind} {further : Element → State → State} (other : kind ≠ .importDef)
    (bound : kind = .variableDef → (variableValue? s n).isSome = true)
    (adds : ∀ e st, ∃ references : List Reference, further e st = references.foldl State.addReference st)
    (h : (declareNamed s scope n own st).map (fun r => (some r.1, further r.1 r.2)) = .ok (out, st')) :
    Declaration s scope n st kind out st' := by
  obtain ⟨⟨e, st₁⟩, h₁, h⟩ := Except.map_eq_ok_iff.mp h
  obtain ⟨rfl, rfl⟩ := Prod.mk.inj h
  obtain ⟨name, named, h⟩ := Except.map_eq_ok_iff.mp h₁
  obtain ⟨rfl, rfl⟩ := Prod.mk.inj h
  obtain ⟨references, same⟩ := adds (declare s scope n own name st).1 (declare s scope n own name st).2
  have declares : ∀ st', st' = references.foldl State.addReference (declare s scope n own name st).2 →
      Declaration s scope n st kind (some (declare s scope n own name st).1) st' := by
    rintro _ rfl
    exact .declares named other bound own references
  exact declares _ same

theorem handleDeclaration_declaration {kind : ElementKind} (h : handleDeclaration s scope n kind st = .ok (out, st')) :
    Declaration s scope n st kind out st' := by
  have nothing : ∀ (_ : Element) (st : State), ∃ references : List Reference, st = references.foldl State.addReference st :=
    fun _ _ => ⟨[], rfl⟩
  cases kind with
  | classDef | interfaceDef => exact record_declaration (by decide) (by simp) (addHeritage_eq s n) h
  | functionDef | methodDef | propertyDef | typeDef | enumDef => exact record_declaration (by decide) (by simp) nothing h
  | variableDef =>
    simp only [handleDeclaration] at h
    split at h
    · rename_i unbound
      obtain ⟨rfl, rfl⟩ := Prod.mk.inj (Except.ok.inj h)
      exact .passes rfl unbound
    · rename_i value bound
      exact record_declaration (by decide) (fun _ => by rw [bound]; rfl) nothing h
  | importDef =>
    obtain ⟨st₁, h₁, h⟩ := Except.map_eq_ok_iff.mp h
    obtain ⟨rfl, rfl⟩ := Prod.mk.inj h
    exact .imports rfl h₁

theorem handleDeclaration_declares {kind : ElementKind} (h : handleDeclaration s scope n kind st = .ok (out, st')) :
    Declares s scope n st (declaresKind s n kind) out st' := by
  cases handleDeclaration_declaration h with
  | passes isVariable unbound => exact .nothing (by rw [isVariable, declaresKind, unbound]; rfl) (.refl st)
  | @declares name named other bound own references =>
    refine .element ?_ own name (.addReferences references _) fun e opened => (Option.some.inj opened).symm
    have read : (nameOf s n).isOk = true := by rw [named]; rfl
    cases kind <;> simp_all [declaresKind]
  | imports isImport handled => exact isImport ▸ handleImport_declares handled

theorem SameOutline.of_refers (h : Refers s scope st st') : SameOutline st st' := by
  cases h with
  | nothing => exact .refl st
  | refers => exact .addReference st _

/-- Every node adds at most its own element to the outline. -/
theorem handle_declares {ancestors : List Node} (h : handle s ancestors scope n st = .ok (out, st')) :
    Declares s scope n st (declaresElement s ancestors n) out st' := by
  unfold declaresElement
  cases handle_handled h with
  | declares shape handled =>
    rw [shape]
    exact handleDeclaration_declares handled
  | refers undeclared refers =>
    refine .nothing ?_ (.of_refers refers)
    split
    · rename_i kind shape
      exact absurd shape (undeclared kind)
    · rfl

end Handlers

end CodeAtlas.Visit
