import CodeAtlas.Proofs.Visit.Changes

/-!
# The nodes of a tree

A walk enters nodes of its tree and no others. So what the handling of each node of the tree keeps from one moment to the
next, and what is kept when a scope is left, holds of the findings of the tree (`Visit.Keeps.walkTree`).
-/

namespace CodeAtlas

mutual

/-- The node and all nodes below it, from left to right. -/
def Node.subtree : Node → List Node
  | .mk type named start stop field children => .mk type named start stop field children :: Node.subtrees children

/-- The nodes and all nodes below them, from left to right. -/
def Node.subtrees : List Node → List Node
  | [] => []
  | n :: rest => n.subtree ++ Node.subtrees rest

end

namespace Node

theorem mem_subtree_self (n : Node) : n ∈ n.subtree := by
  cases n with
  | mk => exact List.mem_cons_self

theorem mem_subtrees {n m : Node} : ∀ {ns : List Node}, n ∈ ns → m ∈ n.subtree → m ∈ subtrees ns
  | n' :: ns, mem, below => by
    rw [subtrees, List.mem_append]
    rcases List.mem_cons.mp mem with rfl | mem
    · exact Or.inl below
    · exact Or.inr (mem_subtrees mem below)

mutual

/-- The children of a node of a tree are nodes of the tree. -/
theorem mem_subtree_of_mem_children {n c : Node} : ∀ {root : Node}, n ∈ root.subtree → c ∈ n.children → c ∈ root.subtree
  | .mk type named start stop field children, mem, child => by
    rw [subtree] at mem ⊢
    refine List.mem_cons_of_mem _ ?_
    rcases List.mem_cons.mp mem with rfl | mem
    · exact mem_subtrees child (mem_subtree_self c)
    · exact mem_subtrees_of_mem_children mem child

/-- The children of a node below some nodes are nodes below them. -/
theorem mem_subtrees_of_mem_children {n c : Node} : ∀ {ns : List Node}, n ∈ subtrees ns → c ∈ n.children → c ∈ subtrees ns
  | n' :: ns, mem, child => by
    rw [subtrees, List.mem_append] at mem ⊢
    exact mem.imp (mem_subtree_of_mem_children · child) (mem_subtrees_of_mem_children · child)

end

end Node

/-! ## What a walk over a tree keeps -/

namespace Visit

variable {s : Subject} {scope : List Element} {st st' : State} {n : Node}

/-- If the children of a node have the property, it is one of all nodes to be entered next. -/
theorem forall_entered_children {P : Node → Prop} {ancestors : List Node} {tasks : List Task}
    (below : ∀ c ∈ n.children, P c) (entered : ∀ above m, .enter above m ∈ tasks → P m) :
    ∀ above m, .enter above m ∈ Task.children ancestors n ++ tasks → P m := by
  intro above m mem
  rcases List.mem_append.mp mem with child | mem
  · obtain ⟨c, isChild, same⟩ := List.mem_map.mp child
    obtain ⟨-, rfl⟩ := Task.enter.inj same
    exact below c isChild
  · exact entered above m mem

/-- What the handling of a node keeps from one moment to the next, if the node has a property, and what is kept when a scope
is left. -/
structure Keeps (s : Subject) (P : Node → Prop) (Q : Moment → Prop) : Prop where
  handled : ∀ {ancestors scope n st out st'}, P n → Q ⟨scope, st⟩ → handle s ancestors scope n st = .ok (out, st') →
    Q ⟨out.toList ++ scope, st'⟩
  left : ∀ {e scope st}, Q ⟨e :: scope, st⟩ → Q ⟨scope, st⟩

/-- If a property passes on from nodes to their children and the nodes to be entered have it, a walk keeps what is kept at
nodes with the property. -/
theorem Keeps.walk {P : Node → Prop} {Q : Moment → Prop} (keeps : Keeps s P Q) (below : ∀ n, P n → ∀ c ∈ n.children, P c)
    (scope : List Element) (st : State) (tasks : List Task) (h : walk s scope st tasks = .ok st') (start : Q ⟨scope, st⟩)
    (entered : ∀ above m, .enter above m ∈ tasks → P m) : ∃ scope', Q ⟨scope', st'⟩ := by
  fun_induction Visit.walk s scope st tasks with
  | case1 scope st =>
    obtain rfl : st = st' := Except.ok.inj h
    exact ⟨scope, start⟩
  | case2 => cases h
  | case3 st tasks e outer ih => exact ih h (keeps.left start) fun above m mem => entered above m (List.mem_cons_of_mem _ mem)
  | case4 => cases h
  | case5 scope st ancestors n tasks e st₁ handled ih =>
    have holds := entered ancestors n List.mem_cons_self
    refine ih h (keeps.handled holds start handled) (forall_entered_children (below n holds) fun above m mem => ?_)
    rcases List.mem_cons.mp mem with leaves | mem
    · cases leaves
    · exact entered above m (List.mem_cons_of_mem _ mem)
  | case6 scope st ancestors n tasks st₁ handled ih =>
    have holds := entered ancestors n List.mem_cons_self
    exact ih h (keeps.handled holds start handled) (forall_entered_children (below n holds) fun above m mem =>
      entered above m (List.mem_cons_of_mem _ mem))

/-- What holds at the start and is kept at the nodes of a tree holds when the findings of the tree are complete. -/
theorem Keeps.walkTree {root : Node} {Q : Moment → Prop} (keeps : Keeps s (· ∈ root.subtree) Q) (start : Q .start)
    {found : Findings} (h : walkTree s root = .ok found) : ∃ m, Q m ∧ m.state.findings = found := by
  obtain ⟨st', walked, rfl⟩ := Except.map_eq_ok_iff.mp h
  obtain ⟨scope', holds⟩ := keeps.walk (fun n mem c => Node.mem_subtree_of_mem_children mem) [] .initial _ walked start
    fun above m mem => by
      obtain ⟨-, rfl⟩ := Task.enter.inj (List.mem_singleton.mp mem)
      exact m.mem_subtree_self
  exact ⟨⟨scope', st'⟩, holds, rfl⟩

end Visit

end CodeAtlas
