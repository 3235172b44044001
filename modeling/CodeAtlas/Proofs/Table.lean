import CodeAtlas.Table
import Mathlib.Data.List.Basic

/-!
# Laws of tables

A table finds the values of its entries (`get?_of_mem`, `mem_of_get?`), in whatever order these stand (`get?_perm`). Pairs
with distinct keys become its entries (`entries_ofList`). After many bindings it finds the value computed for a key, if each
key is bound to a value computed from it (`get?_foldl_put`), and the values of a key in their order, if values were grouped
under their keys (`getD_group`, `entries_group`).
-/

namespace CodeAtlas.Table

universe u v

variable {α : Type u} {β γ : Type v} [DecidableEq α]

@[simp] theorem get?_empty (k : α) : (empty : Table α β).get? k = none := rfl

theorem find_of_mem {k : α} {v : β} : ∀ {es : List (α × β)}, (es.map Prod.fst).Nodup → (k, v) ∈ es → find k es = some v
  | (k', v') :: es, distinct, mem => by
    obtain ⟨fresh, distinct⟩ := List.nodup_cons.mp distinct
    rw [find]
    rcases List.mem_cons.mp mem with same | mem
    · obtain ⟨rfl, rfl⟩ := Prod.mk.inj same
      rw [if_pos rfl]
    · have other : k' ≠ k := fun same => fresh (List.mem_map.mpr ⟨(k, v), mem, same.symm⟩)
      rw [if_neg other]
      exact find_of_mem distinct mem

/-- The value of an entry is found under its key. -/
theorem get?_of_mem {t : Table α β} {k : α} {v : β} (mem : (k, v) ∈ t.entries) : t.get? k = some v :=
  find_of_mem t.distinct mem

theorem mem_of_find {k : α} {v : β} : ∀ {es : List (α × β)}, find k es = some v → (k, v) ∈ es
  | (k', v') :: es, found => by
    rw [find] at found
    split at found
    · rename_i same
      rw [← same, Option.some.inj found]
      exact List.mem_cons_self
    · exact List.mem_cons_of_mem _ (mem_of_find found)

/-- What is found under a key is the value of its entry. -/
theorem mem_of_get? {t : Table α β} {k : α} {v : β} (found : t.get? k = some v) : (k, v) ∈ t.entries := mem_of_find found

/-- The order of the entries has no influence on a look-up. -/
theorem get?_perm {t u : Table α β} (perm : t.entries.Perm u.entries) (k : α) : t.get? k = u.get? k := by
  refine Option.ext fun v => ⟨fun found => ?_, fun found => ?_⟩
  · exact get?_of_mem (perm.mem_iff.mp (mem_of_get? found))
  · exact get?_of_mem (perm.mem_iff.mpr (mem_of_get? found))

theorem mem_keys_congr {t u : Table α β} (same : ∀ k, t.get? k = u.get? k) {k : α} : k ∈ t.keys ↔ k ∈ u.keys := by
  rw [← contains_iff, ← contains_iff, contains, contains, same]

theorem mem_keys_put {t : Table α β} {k k' : α} {v : β} : k' ∈ (t.put k v).keys ↔ k' ∈ t.keys ∨ k' = k := by
  rw [keys_put]
  split
  · rename_i bound
    exact ⟨Or.inl, fun h => h.elim id fun same => same ▸ bound⟩
  · rw [List.mem_append, List.mem_singleton]

/-- The values after a binding are the bound one and values from before. -/
theorem mem_values_put {t : Table α β} {k : α} {v w : β} (mem : w ∈ (t.put k v).values) : w ∈ t.values ∨ w = v := by
  obtain ⟨⟨k', _⟩, entry, rfl⟩ := List.mem_map.mp mem
  have found := get?_of_mem entry
  rw [get?_put] at found
  split at found
  · exact Or.inr (Option.some.inj found).symm
  · exact Or.inl (List.mem_map_of_mem (mem_of_get? found))

theorem mem_values_putAll {pairs : List (α × β)} {t : Table α β} {w : β} (mem : w ∈ (t.putAll pairs).values) :
    w ∈ t.values ∨ w ∈ pairs.map Prod.snd := by
  induction pairs generalizing t with
  | nil => exact Or.inl mem
  | cons pair pairs ih =>
    rcases ih mem with mem | mem
    · rcases mem_values_put mem with mem | rfl
      · exact Or.inl mem
      · exact Or.inr List.mem_cons_self
    · exact Or.inr (List.mem_cons_of_mem _ mem)

/-- Keys that are bound to values computed from them are found, however often and in whatever order they were bound. -/
theorem get?_foldl_put (f : α → β) (k : α) (ks : List α) (t : Table α β) :
    (ks.foldl (fun t k => t.put k (f k)) t).get? k = if k ∈ ks then some (f k) else t.get? k := by
  induction ks generalizing t with
  | nil => simp
  | cons a ks ih =>
    rw [List.foldl_cons, ih, get?_put]
    by_cases h : k ∈ ks
    · simp [h]
    · by_cases ha : a = k
      · simp [ha]
      · have ha' : ¬ k = a := fun e => ha e.symm
        simp [h, ha, ha']

theorem bind_of_notMem {k : α} {v : β} {es : List (α × β)} (new : k ∉ es.map Prod.fst) : bind k v es = es ++ [(k, v)] := by
  induction es with
  | nil => rfl
  | cons e es ih =>
    rw [List.map_cons, List.mem_cons, not_or] at new
    rw [bind, if_neg (Ne.symm new.1), ih new.2, List.cons_append]

/-- Pairs with distinct keys become the entries, after those that were there. -/
theorem entries_putAll {t : Table α β} {pairs : List (α × β)} (distinct : (t.keys ++ pairs.map Prod.fst).Nodup) :
    (t.putAll pairs).entries = t.entries ++ pairs := by
  induction pairs generalizing t with
  | nil => exact (List.append_nil _).symm
  | cons e pairs ih =>
    have new : e.1 ∉ t.keys := fun mem => (List.nodup_append.mp distinct).2.2 _ mem _ List.mem_cons_self rfl
    have entries : (t.put e.1 e.2).entries = t.entries ++ [e] := bind_of_notMem new
    have keys : (t.put e.1 e.2).keys = t.keys ++ [e.1] := by rw [keys_put, if_neg new]
    rw [putAll, List.foldl_cons, ← putAll, ih, entries, List.append_assoc, List.singleton_append]
    rw [keys, List.append_assoc, List.singleton_append]
    exact distinct

theorem entries_ofList {pairs : List (α × β)} (distinct : (pairs.map Prod.fst).Nodup) : (ofList pairs).entries = pairs :=
  entries_putAll distinct

theorem mem_keys_putAll {pairs : List (α × β)} {t : Table α β} {k : α} :
    k ∈ (t.putAll pairs).keys ↔ k ∈ t.keys ∨ k ∈ pairs.map Prod.fst := by
  induction pairs generalizing t with
  | nil => simp [putAll]
  | cons pair pairs ih => rw [putAll, List.foldl_cons, ← putAll, ih, mem_keys_put, or_assoc, List.map_cons, List.mem_cons]

/-- The keys of a table lead to its values. -/
theorem map_get?_keys (t : Table α β) : t.keys.map t.get? = t.values.map some := by
  rw [keys, values, List.map_map, List.map_map]
  exact List.map_congr_left fun _ mem => get?_of_mem mem

/-- A value is appended to the list of its key, and no other list is touched. -/
theorem getD_push (t : Table α (List γ)) (k k' : α) (v : γ) :
    ((t.push k v).get? k').getD [] = (t.get? k').getD [] ++ if k = k' then [v] else [] := by
  unfold push
  rw [get?_put]
  split
  · rename_i h
    rw [h]
    rfl
  · rw [List.append_nil]

theorem getD_foldl_push (key : γ → α) (k : α) (vs : List γ) (t : Table α (List γ)) :
    ((vs.foldl (fun t v => t.push (key v) v) t).get? k).getD [] = (t.get? k).getD [] ++ vs.filter (key · = k) := by
  induction vs generalizing t with
  | nil => simp
  | cons v vs ih =>
    rw [List.foldl_cons, ih, getD_push, List.append_assoc]
    by_cases h : key v = k <;> simp [h]

/-- Grouped values are found under their key, in their order. -/
theorem getD_group (key : γ → α) (vs : List γ) (k : α) :
    ((group key vs).get? k).getD [] = vs.filter (key · = k) := by
  rw [group, getD_foldl_push]
  rfl

theorem mem_keys_foldl_push {key : γ → α} {k : α} (vs : List γ) (t : Table α (List γ)) :
    k ∈ (vs.foldl (fun t v => t.push (key v) v) t).keys ↔ k ∈ t.keys ∨ ∃ v ∈ vs, key v = k := by
  induction vs generalizing t with
  | nil => simp
  | cons v vs ih =>
    rw [List.foldl_cons, ih, push, mem_keys_put, or_assoc, @eq_comm _ k]
    simp only [List.mem_cons, exists_eq_or_imp]

/-- The keys are those of the grouped values. -/
theorem mem_keys_group {key : γ → α} {vs : List γ} {k : α} : k ∈ (group key vs).keys ↔ ∃ v ∈ vs, key v = k := by
  rw [group, mem_keys_foldl_push]
  exact or_iff_right List.not_mem_nil

/-- The entries are the keys with the values that have them. -/
theorem entries_group (key : γ → α) (vs : List γ) :
    (group key vs).entries = (group key vs).keys.map fun k => (k, vs.filter (key · = k)) := by
  rw [keys, List.map_map]
  refine (List.map_id _).symm.trans (List.map_congr_left fun e mem => ?_)
  have found : (group key vs).get? e.1 = some e.2 := get?_of_mem mem
  have values := getD_group key vs e.1
  rw [found] at values
  exact Prod.ext rfl values

end CodeAtlas.Table
