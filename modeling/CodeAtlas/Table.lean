/-!
# Insertion-ordered tables

A table binds each of its keys to one value and remembers the order in which the keys were first bound. Rebinding a key
changes its value and keeps its place. Main statements: what `put` does to the keys (`keys_put`) and to a look-up
(`get?_put`).
-/

namespace CodeAtlas

universe u v

/-- A finite map that keeps its keys in the order of their first binding. -/
structure Table (α : Type u) (β : Type v) where
  entries : List (α × β)
  distinct : (entries.map Prod.fst).Nodup
deriving Repr, DecidableEq

namespace Table

variable {α : Type u} {β : Type v}

/-- The table without entries. -/
def empty : Table α β := ⟨[], List.nodup_nil⟩

instance : Inhabited (Table α β) := ⟨empty⟩

/-- The keys in the order of their first binding. -/
def keys (t : Table α β) : List α := t.entries.map Prod.fst

/-- The values in the order of their keys. -/
def values (t : Table α β) : List β := t.entries.map Prod.snd

/-- The number of keys. -/
def size (t : Table α β) : Nat := t.entries.length

/-- The table has no entry. -/
def isEmpty (t : Table α β) : Bool := t.entries.isEmpty

/-- The table with another value for each key. -/
def mapValues {γ : Type v} (f : α → β → γ) (t : Table α β) : Table α γ :=
  ⟨t.entries.map fun e => (e.1, f e.1 e.2), by simpa [Function.comp_def] using t.distinct⟩

variable [DecidableEq α]

/-- The value that the entries bind a key to. -/
def find (k : α) : List (α × β) → Option β
  | [] => none
  | (k', v) :: rest => if k' = k then some v else find k rest

/-- Binds a key among entries: in its place if it is there, else at the end. -/
def bind (k : α) (v : β) : List (α × β) → List (α × β)
  | [] => [(k, v)]
  | (k', v') :: rest => if k' = k then (k, v) :: rest else (k', v') :: bind k v rest

theorem map_fst_bind (k : α) (v : β) (es : List (α × β)) :
    (bind k v es).map Prod.fst = if k ∈ es.map Prod.fst then es.map Prod.fst else es.map Prod.fst ++ [k] := by
  induction es with
  | nil => simp [bind]
  | cons e rest ih =>
    obtain ⟨k', v'⟩ := e
    by_cases h : k' = k
    · simp [bind, h]
    · have h' : ¬ k = k' := fun e => h e.symm
      simp only [bind, h, if_false, List.map_cons, List.mem_cons, h', false_or, ih]
      split <;> simp

/-- The value of a key. -/
def get? (t : Table α β) (k : α) : Option β := find k t.entries

/-- The key is bound. -/
def contains (t : Table α β) (k : α) : Bool := (t.get? k).isSome

/-- Binds a key to a value. -/
def put (t : Table α β) (k : α) (v : β) : Table α β :=
  ⟨bind k v t.entries, by
    rw [map_fst_bind]
    split
    · exact t.distinct
    · rename_i h
      rw [List.nodup_append]
      refine ⟨t.distinct, by simp, ?_⟩
      intro a ha b hb
      simp only [List.mem_singleton] at hb
      subst hb
      intro e
      exact h (e ▸ ha)⟩

/-- Binds the pairs of a list one after another. -/
def putAll (t : Table α β) (pairs : List (α × β)) : Table α β := pairs.foldl (fun t e => t.put e.1 e.2) t

/-- The table that the pairs of a list bind one after another. -/
def ofList (pairs : List (α × β)) : Table α β := empty.putAll pairs

/-- Binds every entry of a second table. -/
def update (t u : Table α β) : Table α β := t.putAll u.entries

/-- Appends a value to the list of a key. -/
def push {γ : Type v} (t : Table α (List γ)) (k : α) (v : γ) : Table α (List γ) := t.put k ((t.get? k).getD [] ++ [v])

/-- The values of a list under their keys, each list in the order of the values. -/
def group {γ : Type v} (key : γ → α) (vs : List γ) : Table α (List γ) := vs.foldl (fun t v => t.push (key v) v) empty

/-- A new key is appended, a bound key keeps its place. -/
theorem keys_put (t : Table α β) (k : α) (v : β) :
    (t.put k v).keys = if k ∈ t.keys then t.keys else t.keys ++ [k] := map_fst_bind k v t.entries

theorem find_bind (k k' : α) (v : β) (es : List (α × β)) :
    find k' (bind k v es) = if k = k' then some v else find k' es := by
  induction es with
  | nil => simp [bind, find]
  | cons e rest ih =>
    obtain ⟨a, b⟩ := e
    by_cases h : a = k
    · subst h; by_cases h' : a = k' <;> simp [bind, find, h']
    · simp only [bind, h, if_false, find, ih]
      by_cases h' : a = k'
      · have : ¬ k = k' := fun e => h (h'.trans e.symm)
        simp [h', this]
      · simp [h']

/-- The value last bound is found, and no other key is touched. -/
theorem get?_put (t : Table α β) (k k' : α) (v : β) :
    (t.put k v).get? k' = if k = k' then some v else t.get? k' := find_bind k k' v t.entries

theorem find_isSome (k : α) (es : List (α × β)) : (find k es).isSome = true ↔ k ∈ es.map Prod.fst := by
  induction es with
  | nil => simp [find]
  | cons e rest ih =>
    obtain ⟨a, b⟩ := e
    by_cases h : a = k
    · simp [find, h]
    · have h' : ¬ k = a := fun e => h e.symm
      simp only [find, h, if_false, ih, List.map_cons, List.mem_cons, h', false_or]

/-- Exactly the keys are bound. -/
theorem contains_iff (t : Table α β) (k : α) : t.contains k = true ↔ k ∈ t.keys := find_isSome k t.entries

end Table

end CodeAtlas
