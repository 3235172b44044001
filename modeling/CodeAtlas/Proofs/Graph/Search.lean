import CodeAtlas.Graph.Search
import CodeAtlas.Proofs.Rearrangement
import Mathlib.Data.Prod.Lex
import Mathlib.Data.String.Basic
import Mathlib.Order.Fin.Basic

/-!
# What a search lists

A search ranks the places of a graph whose nodes it finds by three keys: whether the whole name is the query, the path of the
file, and the place itself. The ranking has each of these places once and no other (`Graph.IsRanking`), and there is only one
(`IsRanking.unique`). A search lists the nodes in this ranking, and with a limit as many of the first as it allows
(`search_ranks`).
-/

namespace CodeAtlas

theorem Text.occursIn_iff {needle : List Char} : ∀ {text : List Char}, occursIn needle text = true ↔ needle <:+: text
  | [] => by simp [occursIn]
  | c :: rest => by
    rw [occursIn, Bool.or_eq_true, List.isPrefixOf_iff_prefix, occursIn_iff, List.infix_cons_iff]

/-- The query stands in the name of the node, cases apart. -/
def GraphNode.IsFoundBy (query : String) (n : GraphNode) : Prop :=
  Text.lower query.toList <:+: Text.lower n.name.toList

/-- The query is the whole name of the node, cases apart. -/
def GraphNode.IsNamed (query : String) (n : GraphNode) : Prop :=
  Text.lower n.name.toList = Text.lower query.toList

instance (query : String) : DecidablePred (GraphNode.IsFoundBy query) := fun _ => inferInstanceAs (Decidable (_ <:+: _))

instance (query : String) : DecidablePred (GraphNode.IsNamed query) := fun _ => inferInstanceAs (Decidable (_ = _))

namespace Graph

variable (g : Graph) (query : String)

/-- A place among the nodes. -/
abbrev Place := Fin g.nodes.length

variable {g} in
/-- The node at a place. -/
def Place.node (i : g.Place) : GraphNode := g.nodes[i]

/-- What a place is ranked by: names that are the query come first, then files in path order, then places in their order. -/
def rank (i : g.Place) : Nat ×ₗ String ×ₗ g.Place :=
  toLex (if i.node.IsNamed query then 0 else 1, toLex (i.node.file, i))

/-- The places are those whose nodes the query finds, each once, by their rank. -/
structure IsRanking (places : List g.Place) : Prop where
  ordered : places.Pairwise fun i j => g.rank query i < g.rank query j
  found : ∀ i, i ∈ places ↔ i.node.IsFoundBy query

/-- How the node at a place is listed: with the edges that start or end at it, if edges are wanted. -/
def hitAt (withEdges : Bool) (i : g.Place) : Hit where
  node := i.node
  exact := i.node.IsNamed query
  edges := if withEdges then g.edges.filter fun e => e.source = i.node.id ∨ e.target = i.node.id else []

variable {g query}

theorem IsRanking.nodup {places : List g.Place} (h : g.IsRanking query places) : places.Nodup := by
  refine h.ordered.imp fun {i j} before same => ?_
  rw [same] at before
  exact lt_irrefl (g.rank query j) before

/-- The order of three keys leaves no choice. -/
theorem IsRanking.unique {places places' : List g.Place} (h : g.IsRanking query places) (h' : g.IsRanking query places') :
    places = places' := by
  have perm : places.Perm places' :=
    (List.perm_ext_iff_of_nodup h.nodup h'.nodup).mpr fun i => (h.found i).trans (h'.found i).symm
  refine perm.eq_of_pairwise (fun i j _ _ before after => ?_) h.ordered h'.ordered
  exact absurd after (lt_asymm (a := g.rank query i) before)

/-! ## The order of hits -/

theorem ranksBefore_trans (a b c : Hit) (h : ranksBefore a b = true) (h' : ranksBefore b c = true) :
    ranksBefore a c = true := by
  unfold ranksBefore Text.precedes at *
  cases ha : a.exact <;> cases hb : b.exact <;> cases hc : c.exact <;> simp [ha, hb, hc] at h h' ⊢
  all_goals exact le_trans h h'

theorem ranksBefore_total (a b : Hit) : (ranksBefore a b || ranksBefore b a) = true := by
  unfold ranksBefore Text.precedes
  cases ha : a.exact <;> cases hb : b.exact <;> simp [le_total]

/-- Of two places the first has the lower rank if its hit is not above the other one, and it comes first if they are tied. -/
theorem rank_lt_of_ranksBefore {i j : g.Place}
    (sorted : ranksBefore (g.hitAt query false i) (g.hitAt query false j) = true)
    (tied : ranksBefore (g.hitAt query false j) (g.hitAt query false i) = true → i < j) :
    g.rank query i < g.rank query j := by
  unfold ranksBefore Text.precedes hitAt at sorted tied
  rw [rank, rank, Prod.Lex.toLex_lt_toLex, Prod.Lex.toLex_lt_toLex]
  by_cases hi : i.node.IsNamed query <;> by_cases hj : j.node.IsNamed query <;> simp [hi, hj, -String.lt_iff_ltb] at sorted tied ⊢
  all_goals
    rcases lt_or_eq_of_le sorted with before | same
    · exact Or.inl before
    · exact Or.inr ⟨same, tied (le_of_eq same.symm)⟩

/-! ## The ranking -/

variable (g query)

/-- The places whose nodes the query finds, in their order. -/
def foundPlaces : List g.Place := (List.finRange g.nodes.length).filter fun i => i.node.IsFoundBy query

/-- The places whose nodes the query finds, best first. -/
def ranking : List g.Place :=
  (g.foundPlaces query).mergeSort fun i j => ranksBefore (g.hitAt query false i) (g.hitAt query false j)

theorem isRanking_ranking : g.IsRanking query (g.ranking query) where
  ordered := by
    have placed : (g.foundPlaces query).Pairwise (· < ·) := (List.pairwise_lt_finRange _).filter _
    refine (List.pairwise_mergeSort_of_tied (fun i j k => ?_) (fun i j => ?_) placed).imp fun before => ?_
    · exact ranksBefore_trans _ _ _
    · exact ranksBefore_total _ _
    · exact rank_lt_of_ranksBefore before.1 before.2
  found i := by simp [ranking, foundPlaces]

/-- The hits of a query that is not blank are those at the places of its ranking. -/
theorem rankedHits_eq (ink : Text.hasInk query.toList = true) :
    g.rankedHits query = (g.ranking query).map (g.hitAt query false) := by
  have hit : hit? (Text.lower query.toList) ∘ Place.node =
      fun i : g.Place => if i.node.IsFoundBy query then some (g.hitAt query false i) else none := by
    funext i
    simp only [Function.comp_apply, hit?, Text.occursIn_iff]
    rfl
  have nodes : g.nodes = (List.finRange g.nodes.length).map Place.node := (List.map_getElem_finRange g.nodes).symm
  have hits : g.nodes.filterMap (hit? (Text.lower query.toList)) = (g.foundPlaces query).map (g.hitAt query false) := by
    rw [nodes, List.filterMap_map, hit, foundPlaces, ← List.filterMap_eq_map', List.filterMap_filter]
    simp only [decide_eq_true_eq]
  have sorted : (g.ranking query).map (g.hitAt query false) =
      ((g.foundPlaces query).map (g.hitAt query false)).mergeSort ranksBefore := List.map_mergeSort fun _ _ _ _ => rfl
  rw [rankedHits, if_pos ink, hits, sorted]

theorem map_limited {α β : Type} (f : α → β) (limit : Option Int) (xs : List α) :
    (limited limit xs).map f = limited limit (xs.map f) := by
  cases limit with
  | none => rfl
  | some n => exact List.map_take

/-- The best hits of a query that is not blank come first in its ranking. -/
theorem bestHits_eq (ink : Text.hasInk query.toList = true) (limit : Option Int) (withEdges : Bool) :
    g.bestHits query limit withEdges = limited limit ((g.ranking query).map (g.hitAt query withEdges)) := by
  have edges (i : g.Place) : { g.hitAt query false i with
      edges := if withEdges then g.edgesAt (g.hitAt query false i).node.id else [] } = g.hitAt query withEdges i := by
    simp only [hitAt, edgesAt, Bool.decide_or]
  rw [bestHits, rankedHits_eq g query ink, map_limited, List.map_map]
  exact congrArg (limited limit) (List.map_congr_left fun i _ => edges i)

/-- A blank query has no hits. -/
theorem bestHits_of_blank (blank : Text.hasInk query.toList = false) (limit : Option Int) (withEdges : Bool) :
    g.bestHits query limit withEdges = [] := by
  rw [bestHits, rankedHits, blank, map_limited]
  cases limit with
  | none => rfl
  | some n => exact List.take_nil

theorem search_of_nonneg {n : Int} (nonneg : 0 ≤ n) (withEdges : Bool) :
    g.search query (some n) withEdges = .ok (g.bestHits query (some n) withEdges) := if_neg (by omega)

/-- A query with a character that is not blank has one ranking: a search without a limit lists the nodes at its places, each
described as exact where the whole name is the query and with the edges at it if they are wanted, and a search with a limit
lists the first ones of these. A blank query finds nothing, and no limit may be negative. -/
theorem search_ranks (g : Graph) (query : String) :
    ((∃ c ∈ query.toList, Text.isBlank c = false) → ∃ places, g.IsRanking query places ∧
      (∀ places', g.IsRanking query places' → places' = places) ∧ ∀ withEdges,
        g.search query none withEdges = .ok (places.map (g.hitAt query withEdges)) ∧
        ∀ n : Nat, g.search query (some n) withEdges = .ok ((places.map (g.hitAt query withEdges)).take n)) ∧
    (∀ withEdges, ∀ i, (g.hitAt query withEdges i).kind = if i.node.IsNamed query then "exact" else "partial") ∧
    ((∀ c ∈ query.toList, Text.isBlank c = true) → ∀ withEdges, g.search query none withEdges = .ok [] ∧
      ∀ n : Nat, g.search query (some n) withEdges = .ok []) ∧
    ∀ n : Int, n < 0 → ∀ withEdges, g.search query (some n) withEdges = .error (.negativeLimit n) := by
  refine ⟨fun ink => ?_, fun withEdges i => ?_, fun blank withEdges => ?_, fun n negative withEdges => if_pos negative⟩
  · have ink : Text.hasInk query.toList = true := by simpa [Text.hasInk] using ink
    refine ⟨g.ranking query, g.isRanking_ranking query, fun _ h => h.unique (g.isRanking_ranking query), fun withEdges => ?_⟩
    refine ⟨congrArg Except.ok (g.bestHits_eq query ink none withEdges), fun n => ?_⟩
    rw [g.search_of_nonneg query (Int.natCast_nonneg n), g.bestHits_eq query ink]
    rfl
  · simp [hitAt, Hit.kind]
  · have blank : Text.hasInk query.toList = false := by simpa [Text.hasInk] using blank
    refine ⟨congrArg Except.ok (g.bestHits_of_blank query blank none withEdges), fun n => ?_⟩
    rw [g.search_of_nonneg query (Int.natCast_nonneg n), g.bestHits_of_blank query blank]

namespace Sample

/-- A variable that is named twice, in two files, a function with a longer name and one with another name. -/
def areas : Graph := ⟨[node "Area" "b.py", node "area" "a.py", node "total" "a.py", node "areaOf" "a.py"], []⟩
where
  /-- A node with a name, in a file. -/
  node (name file : String) : GraphNode := ⟨file ++ name, name, "variable", file, ⟨1, 0, 1, 0⟩, ""⟩

/-- The places of names with "area" in them, best first. -/
def places : List areas.Place := ([1, 0, 3] : List (Fin 4))

theorem isRanking_places : areas.IsRanking "AREA" places := ⟨by decide +kernel, by decide +kernel⟩

end Sample

/-- Whole names come first, in the order of their files; a limit of two leaves out the longer name. -/
theorem sample_search_ranks :
    Sample.areas.search "AREA" (some 2) false =
      .ok ((Sample.places.map (Sample.areas.hitAt "AREA" false)).take 2) := by
  obtain ⟨_, -, only, lists⟩ := (search_ranks Sample.areas "AREA").1 ⟨'A', by decide, by decide +kernel⟩
  obtain rfl := only Sample.places Sample.isRanking_places
  exact (lists false).2 2

end Graph

end CodeAtlas
