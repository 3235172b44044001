import CodeAtlas.Visit.Walk
import Mathlib.Logic.Relation

/-!
# The walk as a recursive visit

A recursive visit handles a node and then its children from left to right (`preorder`). It hands down the chain of nodes
above, each with the element that its handler returned, if any; the scope of a node is made of these elements.

- Working off the task of entering a node is visiting it recursively, and leaves the scope as it was (`walk_enter`,
  `walk_enterAll`).
- A walk goes from stage to stage (`Step`). At every stage there are as many scopes to leave as there are open ones
  (`Stage.IsBalanced`), so no scope is left that was not opened, and none is open when no task is left.
- So the steps end when no task is left, or at a node that cannot be handled, and the walk ends as they do
  (`Stage.IsBalanced.ends`).
-/

namespace CodeAtlas.Visit

/-! ## The recursive visit -/

/-- The nodes above a node, nearest first, each with the element that was returned for it. -/
abbrev Chain := List (Node × Option Element)

/-- The nodes of a chain. -/
def Chain.nodes (above : Chain) : List Node := above.map Prod.fst

/-- The elements that were returned for the nodes of a chain, innermost first. -/
def Chain.scope (above : Chain) : List Element := above.filterMap Prod.snd

mutual

/-- Handles a node, then visits its children. -/
def preorder (s : Subject) (above : Chain) (n : Node) (st : State) : Except FileFailure State :=
  match n with
  | .mk type named start stop field children =>
    match handle s above.nodes above.scope (.mk type named start stop field children) st with
    | .error e => .error e
    | .ok (opened, st) => preorderAll s ((.mk type named start stop field children, opened) :: above) children st

/-- Visits nodes below the same chain, one after another. -/
def preorderAll (s : Subject) (above : Chain) (ns : List Node) (st : State) : Except FileFailure State :=
  match ns with
  | [] => .ok st
  | n :: ns =>
    match preorder s above n st with
    | .error e => .error e
    | .ok st => preorderAll s above ns st

end

mutual

/-- Entering a node is visiting it recursively; then the walk goes on with the scope that it had before. -/
theorem walk_enter (s : Subject) (above : Chain) (n : Node) (st : State) (tasks : List Task) :
    walk s above.scope st (.enter above.nodes n :: tasks) =
      (preorder s above n st).bind fun st => walk s above.scope st tasks := by
  cases n with
  | mk type named start stop field children =>
    rw [walk, preorder]
    cases handled : handle s above.nodes above.scope (.mk type named start stop field children) st with
    | error e => rfl
    | ok result =>
      obtain ⟨opened, st'⟩ := result
      have below := walk_enterAll s ((.mk type named start stop field children, opened) :: above) children st'
      cases opened with
      | none => exact below tasks
      | some e =>
        refine (below (.leave :: tasks)).trans ?_
        congr 1
        funext st''
        exact walk.eq_3 s st'' tasks e above.scope

/-- Entering nodes one after another is visiting them recursively. -/
theorem walk_enterAll (s : Subject) (above : Chain) (ns : List Node) (st : State) (tasks : List Task) :
    walk s above.scope st (ns.map (.enter above.nodes) ++ tasks) =
      (preorderAll s above ns st).bind fun st => walk s above.scope st tasks := by
  cases ns with
  | nil =>
    rw [preorderAll]
    rfl
  | cons n ns =>
    rw [List.map_cons, List.cons_append, walk_enter s above n st, preorderAll]
    cases preorder s above n st with
    | error e => rfl
    | ok st' => exact walk_enterAll s above ns st' tasks

end

/-! ## Stages of a walk -/

/-- A stage of a walk: the open scopes, what is collected, and the tasks that are left. -/
structure Stage where
  scope : List Element
  state : State
  tasks : List Task

/-- A walk takes one step: it leaves the innermost scope, or it enters a node and puts the children before the other tasks,
after which it leaves the scope that the node opens, if it opens one. -/
inductive Step (s : Subject) : Stage → Stage → Prop
  | leaves {e : Element} {outer : List Element} {st : State} {tasks : List Task} :
      Step s ⟨e :: outer, st, .leave :: tasks⟩ ⟨outer, st, tasks⟩
  | opens {ancestors : List Node} {scope : List Element} {n : Node} {st st' : State} {tasks : List Task} {e : Element}
      (handled : handle s ancestors scope n st = .ok (some e, st')) :
      Step s ⟨scope, st, .enter ancestors n :: tasks⟩ ⟨e :: scope, st', Task.children ancestors n ++ .leave :: tasks⟩
  | passes {ancestors : List Node} {scope : List Element} {n : Node} {st st' : State} {tasks : List Task}
      (handled : handle s ancestors scope n st = .ok (none, st')) :
      Step s ⟨scope, st, .enter ancestors n :: tasks⟩ ⟨scope, st', Task.children ancestors n ++ tasks⟩

/-- A walk comes from one stage to another. -/
abbrev Walks (s : Subject) : Stage → Stage → Prop := Relation.ReflTransGen (Step s)

namespace Stage

variable {s : Subject} {m m' : Stage}

/-- A walk over a tree begins. -/
def start (root : Node) : Stage := ⟨[], .initial, [.enter [] root]⟩

/-- How a walk ends from a stage on. -/
def outcome (s : Subject) (m : Stage) : Except FileFailure State := walk s m.scope m.state m.tasks

/-- The next task is to enter a node that cannot be handled. -/
def FailsWith (s : Subject) (m : Stage) (e : FileFailure) : Prop :=
  ∃ ancestors n tasks, m.tasks = .enter ancestors n :: tasks ∧ handle s ancestors m.scope n m.state = .error e

/-- A step does not change how the walk ends. -/
theorem outcome_step (step : Step s m m') : m.outcome s = m'.outcome s := by
  cases step with
  | leaves => exact walk.eq_3 ..
  | opens handled => simp only [outcome, walk.eq_4, handled]
  | passes handled => simp only [outcome, walk.eq_4, handled]

theorem outcome_walks (path : Walks s m m') : m.outcome s = m'.outcome s := by
  induction path with
  | refl => rfl
  | tail _ step ih => exact ih.trans (outcome_step step)

/-! ### Scopes that are still to be left -/

/-- The number of scopes that are still to be left. -/
def toLeave : List Task → Nat
  | [] => 0
  | .leave :: tasks => toLeave tasks + 1
  | .enter _ _ :: tasks => toLeave tasks

/-- There are as many scopes to leave as there are open ones. -/
def IsBalanced (m : Stage) : Prop := toLeave m.tasks = m.scope.length

theorem toLeave_enterAll (ancestors : List Node) (ns : List Node) (tasks : List Task) :
    toLeave (ns.map (.enter ancestors) ++ tasks) = toLeave tasks := by
  induction ns with
  | nil => rfl
  | cons n ns ih => exact ih

/-- A step opens a scope together with the task of leaving it, or leaves one. -/
theorem IsBalanced.step (h : m.IsBalanced) (step : Step s m m') : m'.IsBalanced := by
  cases step with
  | leaves => exact Nat.succ.inj h
  | @opens ancestors scope n st st' tasks e handled =>
    have rest : toLeave tasks = scope.length := h
    calc toLeave (Task.children ancestors n ++ .leave :: tasks)
        = toLeave tasks + 1 := toLeave_enterAll ..
      _ = (e :: scope).length := by rw [rest, List.length_cons]
  | passes handled => exact (toLeave_enterAll ..).trans h

theorem IsBalanced.walks (h : m.IsBalanced) (path : Walks s m m') : m'.IsBalanced := by
  induction path with
  | refl => exact h
  | tail _ step ih => exact ih.step step

/-- A scope that is to be left is open. -/
theorem IsBalanced.scope_ne_nil (h : m.IsBalanced) {tasks : List Task} (next : m.tasks = .leave :: tasks) :
    m.scope ≠ [] := by
  intro closed
  rw [IsBalanced, next, closed] at h
  cases h

/-- No scope is open when nothing is left to do. -/
theorem IsBalanced.scope_eq_nil (h : m.IsBalanced) (done : m.tasks = []) : m.scope = [] := by
  rw [IsBalanced, done] at h
  exact List.length_eq_zero_iff.mp h.symm

/-! ### Where a walk ends -/

/-- The steps from a stage on end with this outcome: they lead to a stage without tasks and without open scopes, or to a
node that cannot be handled. -/
def Ends (s : Subject) (m : Stage) : Except FileFailure State → Prop
  | .ok st => Walks s m ⟨[], st, []⟩
  | .error e => ∃ m', Walks s m m' ∧ m'.FailsWith s e

theorem Ends.head {result : Except FileFailure State} (h : m'.Ends s result) (step : Step s m m') : m.Ends s result := by
  cases result with
  | ok st => exact Relation.ReflTransGen.head step h
  | error e =>
    obtain ⟨last, path, fails⟩ := h
    exact ⟨last, path.head step, fails⟩

/-- A walk that starts in balance ends as its steps do. -/
theorem IsBalanced.ends (h : m.IsBalanced) : m.Ends s (m.outcome s) := by
  obtain ⟨scope, st, tasks⟩ := m
  unfold outcome
  fun_induction walk s scope st tasks with
  | case1 scope st =>
    obtain rfl : scope = [] := h.scope_eq_nil rfl
    exact .refl
  | case2 st tasks => exact absurd rfl (h.scope_ne_nil rfl)
  | case3 st tasks e outer ih =>
    have step : Step s ⟨e :: outer, st, .leave :: tasks⟩ ⟨outer, st, tasks⟩ := .leaves
    exact (ih (h.step step)).head step
  | case4 scope st ancestors n tasks e failed => exact ⟨_, .refl, ancestors, n, tasks, rfl, failed⟩
  | case5 scope st ancestors n tasks e st' handled ih => exact (ih (h.step (.opens handled))).head (.opens handled)
  | case6 scope st ancestors n tasks st' handled ih => exact (ih (h.step (.passes handled))).head (.passes handled)

end Stage

/-- The walk over a tree has the outcome of the recursive visit, with the same failure or the same findings and numbers. Its
steps end with that outcome, no scope being open then, and from each stage on the way the walk still has it; at none of
them a scope is left though none is open. -/
theorem walk_eq_preorder (s : Subject) (root : Node) :
    walk s [] .initial [.enter [] root] = preorder s [] root .initial ∧
      (Stage.start root).Ends s (preorder s [] root .initial) ∧
      ∀ m, Walks s (Stage.start root) m → m.outcome s = preorder s [] root .initial ∧
        (∀ tasks, m.tasks = .leave :: tasks → m.scope ≠ []) ∧ (m.tasks = [] → m.scope = []) := by
  have visited : walk s [] .initial [.enter [] root] = preorder s [] root .initial := by
    have entered := walk_enter s [] root .initial []
    refine entered.trans ?_
    cases preorder s [] root .initial with
    | error e => rfl
    | ok st => exact walk.eq_1 ..
  have balanced : (Stage.start root).IsBalanced := rfl
  refine ⟨visited, visited ▸ balanced.ends, fun m path => ⟨?_, fun tasks next => ?_, fun done => ?_⟩⟩
  · exact (Stage.outcome_walks path).symm.trans visited
  · exact (balanced.walks path).scope_ne_nil next
  · exact (balanced.walks path).scope_eq_nil done

end CodeAtlas.Visit
