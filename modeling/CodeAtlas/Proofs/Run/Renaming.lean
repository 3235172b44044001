import CodeAtlas.Proofs.Graph.Edges
import CodeAtlas.Proofs.Visit.Renaming

/-!
# Runs under other ids

Two runs that merged the same files under different ids gathered the same up to ids (`Run.Alike`). References resolve by
names, files and kinds, so they resolve to corresponding elements (`target_rename`), and relations are taken once under the
new ids as they were under the old ones (`resolve_rename`). If the ids of both runs are distinct there is a renaming between
them (`exists_renames`), and the graphs are the same once ids are replaced by positions (`byPosition_alike`).
-/

namespace CodeAtlas

/-! ## A renaming between elements that differ in ids -/

/-- Elements that differ only in their ids, which are distinct on both sides, can be renamed into each other. -/
theorem exists_renames : ∀ {es es' : List Element}, es'.map (·.anonymous) = es.map (·.anonymous) →
    (es.map (·.id)).Nodup → (es'.map (·.id)).Nodup → ∃ f, Renames f es es'
  | [], es', same, _, _ => ⟨id, (List.map_eq_nil_iff.mp same).symm ▸ ⟨rfl, by simp⟩⟩
  | e :: es, [], same, _, _ => by cases same
  | e :: es, e' :: es', same, distinct, distinct' => by
    obtain ⟨anonymous, same⟩ := List.cons.inj same
    obtain ⟨fresh, distinct⟩ := List.nodup_cons.mp distinct
    obtain ⟨fresh', distinct'⟩ := List.nodup_cons.mp distinct'
    obtain ⟨f, renames⟩ := exists_renames same distinct distinct'
    -- the first element gets its new id, and no later element has its old one
    let g := Function.update f e.id e'.id
    have here : g e.id = e'.id := Function.update_self e.id e'.id f
    have later : ∀ x ∈ es, g x.id = f x.id := by
      intro x hx
      exact Function.update_of_ne (fun eq => fresh (List.mem_map.mpr ⟨x, hx, eq⟩)) _ _
    have apart : ∀ x ∈ es, g x.id ≠ e'.id := by
      intro x hx eq
      rw [later x hx] at eq
      refine fresh' (List.mem_map.mpr ⟨x.rename f, ?_, eq⟩)
      rw [renames.image]
      exact List.mem_map_of_mem hx
    refine ⟨g, ?_, ?_⟩
    · rw [List.map_cons]
      congr 1
      · cases e
        cases e'
        simp only [Element.anonymous, Element.mk.injEq] at anonymous
        simp only [Element.rename, Element.mk.injEq]
        exact ⟨here.symm, anonymous.2⟩
      · rw [renames.image]
        exact List.map_congr_left fun x hx => by simp only [Element.rename, later x hx]
    · intro a ha b hb eq
      rcases List.mem_cons.mp ha with first | ha <;> rcases List.mem_cons.mp hb with first' | hb
      · rw [first, first']
      · rw [first, here] at eq
        exact absurd eq.symm (apart b hb)
      · rw [first', here] at eq
        exact absurd eq (apart a ha)
      · rw [later a ha, later b hb] at eq
        exact renames.injective a ha b hb eq

/-! ## Runs that are alike -/

/-- The results of visits of a file differ only in ids. -/
structure ResultAlike (x y : FileResult) : Prop where
  file : y.file = x.file
  outcome : Except.Related Visit.FoundAlike x.outcome y.outcome

namespace Run

/-- The second run has gathered what the first one has, under other ids. -/
structure IsRenaming (f : String → String) (x y : Run) : Prop where
  elements : y.elements = x.elements.map (·.rename f)
  relations : y.relations = x.relations.map (·.rename f)
  references : y.references = x.references.map (·.rename f)
  bindings : y.bindings = x.bindings

/-- The runs have gathered the same up to ids. -/
structure Alike (x y : Run) : Prop where
  elements : y.elements.map (·.anonymous) = x.elements.map (·.anonymous)
  failed : y.failed = x.failed
  renamed : ∀ f, Renames f x.elements y.elements → IsRenaming f x y

/-- New runs are alike, whatever their ids. -/
theorem Alike.new (runId runId' : String) : Alike (.new runId) (.new runId') :=
  ⟨rfl, rfl, fun _ _ => ⟨rfl, rfl, rfl, rfl⟩⟩

/-- The numbers of next files do not matter. -/
theorem Alike.numbered {x y : Run} (h : Alike x y) (next next' : Nat) : Alike (x.numbered next) (y.numbered next') := by
  refine ⟨h.elements, h.failed, fun f renames => ?_⟩
  obtain ⟨elements, relations, references, bindings⟩ := h.renamed f renames
  exact ⟨elements, relations, references, bindings⟩

/-- Merging results that are alike keeps runs alike. -/
theorem Alike.merge {x y : Run} (h : Alike x y) {r r' : FileResult} (same : ResultAlike r r') :
    Alike (x.merge r) (y.merge r') := by
  obtain ⟨file, outcome⟩ := r
  obtain ⟨file', outcome'⟩ := r'
  obtain ⟨rfl, outcomes⟩ := same
  cases outcomes with
  | error e =>
    refine ⟨h.elements, by simp only [Run.merge, h.failed], fun f renames => ?_⟩
    obtain ⟨elements, relations, references, bindings⟩ := h.renamed f renames
    exact ⟨elements, relations, references, bindings⟩
  | @ok found found' alike =>
    refine ⟨?_, h.failed, fun f renames => ?_⟩
    · simp only [Run.merge, List.map_append, h.elements, alike.elements]
    · have length : y.elements.length = x.elements.length := by simpa using congrArg List.length h.elements
      obtain ⟨old, new⟩ := renames.of_append length
      have before := h.renamed f old
      have found_eq := alike.renamed f new
      subst found_eq
      refine ⟨renames.image, ?_, ?_, ?_⟩
      · simp only [Run.merge, before.relations, Findings.rename, List.map_append]
      · simp only [Run.merge, before.references, Findings.rename, List.map_append]
      · simp only [Run.merge, before.bindings, Findings.rename]

/-- Merging many results that are alike keeps runs alike. -/
theorem Alike.mergeAll {results results' : List FileResult} (same : List.Forall₂ ResultAlike results results')
    {x y : Run} (h : Alike x y) : Alike (results.foldl Run.merge x) (results'.foldl Run.merge y) := by
  induction same generalizing x y with
  | nil => exact h
  | cons result _ ih => exact ih (h.merge result)

/-! ## References resolve alike -/

section Resolution

variable {f : String → String} {x y : Run}

theorem Index.inFile_rename (es : List Element) (kind : RelationKind) (file name : String) :
    (Index.of (es.map (·.rename f))).inFile kind file name =
      ((Index.of es).inFile kind file name).map (·.rename f) := by
  rw [Index.inFile_of, Index.inFile_of, List.find?_map]
  rfl

theorem Index.anywhere_rename (es : List Element) (kind : RelationKind) (name : String) :
    (Index.of (es.map (·.rename f))).anywhere kind name = ((Index.of es).anywhere kind name).map (·.rename f) := by
  rw [Index.anywhere_of, Index.anywhere_of, List.find?_map]
  rfl

/-- A reference means corresponding elements in both runs. -/
theorem target_rename (h : IsRenaming f x y) (ref : Reference) :
    y.target (Index.of y.elements) (ref.rename f) = (x.target (Index.of x.elements) ref).map (·.rename f) := by
  have binding : y.bindingOf (ref.rename f) = x.bindingOf ref := by
    simp only [bindingOf, h.bindings]
    rfl
  unfold target
  rw [binding, h.elements]
  simp only [Index.inFile_rename, Index.anywhere_rename, Option.map_or, Option.map_bind, Function.comp_def]
  rfl

/-- Different relations between renamed elements stay different. -/
theorem rename_injective {a b : Relation} (renames : Renames f x.elements y.elements)
    (ha : a.source ∈ x.elements.map (·.id) ∧ a.target ∈ x.elements.map (·.id))
    (hb : b.source ∈ x.elements.map (·.id) ∧ b.target ∈ x.elements.map (·.id)) (same : a.rename f = b.rename f) :
    a = b := by
  have ends : ∀ {p q : String}, p ∈ x.elements.map (·.id) → q ∈ x.elements.map (·.id) → f p = f q → p = q := by
    intro p q hp hq eq
    obtain ⟨e, he, rfl⟩ := List.mem_map.mp hp
    obtain ⟨e', he', rfl⟩ := List.mem_map.mp hq
    exact renames.injective e he e' he' eq
  simp only [Relation.rename, Relation.mk.injEq] at same
  obtain ⟨source, target, kind⟩ := same
  cases a
  cases b
  rw [Relation.mk.injEq]
  exact ⟨ends ha.1 hb.1 source, ends ha.2 hb.2 target, kind⟩

theorem meant_rename (h : IsRenaming f x y) : y.meant = x.meant.map (·.rename f) := by
  unfold meant
  rw [h.references, List.filterMap_map, List.map_filterMap]
  refine List.filterMap_congr fun ref _ => ?_
  simp only [Function.comp_apply, target_rename h, Option.map_map]
  rfl

/-- The references of both runs stand for corresponding relations. -/
theorem resolve_rename (h : IsRenaming f x y) (renames : Renames f x.elements y.elements) (grounded : x.IsGrounded) :
    y.resolve = x.resolve.map (·.rename f) := by
  have ends : ∀ rel ∈ x.meant, rel.source ∈ x.elements.map (·.id) ∧ rel.target ∈ x.elements.map (·.id) := by
    intro rel mem
    have resolved : rel ∈ x.resolve := resolve_eq_eraseDups x ▸ List.mem_eraseDups.mpr mem
    exact grounded.ends_of_mem_allRelations (List.mem_append_right _ resolved)
  rw [resolve_eq_eraseDups, resolve_eq_eraseDups, meant_rename h]
  exact List.eraseDups_map fun a ha b hb => rename_injective renames (ends a ha) (ends b hb)

end Resolution

/-- All relations of both runs correspond to each other. -/
theorem allRelations_rename {f : String → String} {x y : Run} (h : IsRenaming f x y)
    (renames : Renames f x.elements y.elements) (grounded : x.IsGrounded) :
    y.allRelations = x.allRelations.map (·.rename f) := by
  rw [allRelations, h.relations, resolve_rename h renames grounded, ← List.map_append, allRelations]

end Run

/-! ## Graphs by positions -/

namespace Graph

/-- The graph under other ids. -/
def rename (f : String → String) (g : Graph) : Graph where
  nodes := g.nodes.map fun n => { n with id := f n.id }
  edges := g.edges.map fun e => { e with source := f e.source, target := f e.target }

/-- The graph with the positions of nodes in place of their ids. -/
def byPosition (g : Graph) : Graph := g.rename fun id => toString (g.nodeIds.idxOf id)

theorem nodeIds_rename (f : String → String) (g : Graph) : (g.rename f).nodeIds = g.nodeIds.map f := by
  simp [nodeIds, rename]

theorem rename_rename (f f' : String → String) (g : Graph) : (g.rename f).rename f' = g.rename (f' ∘ f) := by
  simp [rename, Function.comp_def]

/-- Only the ids of nodes matter to renaming if edges join nodes. -/
theorem rename_congr {f f' : String → String} {g : Graph}
    (joined : ∀ e ∈ g.edges, e.source ∈ g.nodeIds ∧ e.target ∈ g.nodeIds) (same : ∀ id ∈ g.nodeIds, f id = f' id) :
    g.rename f = g.rename f' := by
  unfold rename
  congr 1
  · refine List.map_congr_left fun n hn => ?_
    rw [same n.id (List.mem_map_of_mem hn)]
  · refine List.map_congr_left fun e he => ?_
    rw [same e.source (joined e he).1, same e.target (joined e he).2]

/-- Ids that stay different keep their positions. -/
theorem idxOf_map {f : String → String} : ∀ {ids : List String} {id : String}, id ∈ ids →
    (∀ a ∈ ids, ∀ b ∈ ids, f a = f b → a = b) → (ids.map f).idxOf (f id) = ids.idxOf id
  | a :: ids, id, mem, injective => by
    rw [List.map_cons, List.idxOf_cons, List.idxOf_cons]
    rcases List.mem_cons.mp mem with rfl | mem
    · simp
    · have rest := idxOf_map mem fun x hx y hy =>
        injective x (List.mem_cons_of_mem _ hx) y (List.mem_cons_of_mem _ hy)
      have same : f a = f id ↔ a = id :=
        ⟨injective a List.mem_cons_self id (List.mem_cons_of_mem _ mem), fun h => by rw [h]⟩
      simp only [rest, beq_iff_eq, Bool.cond_eq_ite, same]

/-- Renaming that keeps ids different does not change the graph by positions. -/
theorem byPosition_rename {f : String → String} {g : Graph}
    (joined : ∀ e ∈ g.edges, e.source ∈ g.nodeIds ∧ e.target ∈ g.nodeIds)
    (injective : ∀ a ∈ g.nodeIds, ∀ b ∈ g.nodeIds, f a = f b → a = b) : (g.rename f).byPosition = g.byPosition := by
  unfold byPosition
  rw [rename_rename, nodeIds_rename]
  refine rename_congr joined fun id mem => ?_
  rw [Function.comp_apply, idxOf_map mem injective]

end Graph

theorem Run.graphOf_rename {f : String → String} {x y : Run} (h : IsRenaming f x y)
    (renames : Renames f x.elements y.elements) (grounded : x.IsGrounded) (grounded' : y.IsGrounded) :
    Analyzer.graphOf y = (Analyzer.graphOf x).rename f := by
  have nodes : (Analyzer.graphOf y).nodes = ((Analyzer.graphOf x).rename f).nodes := by
    simp only [Analyzer.graphOf, Graph.build, Graph.rename, h.elements, List.map_map]
    rfl
  have edges : (Analyzer.graphOf y).edges = ((Analyzer.graphOf x).rename f).edges := by
    rw [grounded'.edges_graphOf, allRelations_rename h renames grounded, Graph.rename, grounded.edges_graphOf,
      List.map_map, List.map_map]
    rfl
  exact congrArg₂ Graph.mk nodes edges

/-- Runs that are alike have the same graph by positions if the ids of both are distinct. -/
theorem Run.Alike.byPosition {x y : Run} (h : x.Alike y) (grounded : x.IsGrounded) (grounded' : y.IsGrounded)
    (distinct : (Analyzer.graphOf x).nodeIds.Nodup) (distinct' : (Analyzer.graphOf y).nodeIds.Nodup) :
    (Analyzer.graphOf y).byPosition = (Analyzer.graphOf x).byPosition := by
  simp only [Analyzer.graphOf, Graph.nodeIds_build] at distinct distinct'
  obtain ⟨f, renames⟩ := exists_renames h.elements distinct distinct'
  rw [graphOf_rename (h.renamed f renames) renames grounded grounded']
  refine Graph.byPosition_rename (fun _ => grounded.joined_graphOf) ?_
  simp only [Analyzer.graphOf, Graph.nodeIds_build]
  intro a ha b hb same
  obtain ⟨e, he, rfl⟩ := List.mem_map.mp ha
  obtain ⟨e', he', rfl⟩ := List.mem_map.mp hb
  exact renames.injective e he e' he' same

end CodeAtlas
