import CodeAtlas.Visit.Handler

/-!
# Walking over a tree

The walk visits a node before its children and the children from left to right. It works off a stack of tasks: to enter a
node, or to leave the scope that a node opened once the nodes below it are done.
-/

namespace CodeAtlas

mutual

/-- The number of tasks that a node stands for, at most. -/
def Node.workload : Node → Nat
  | .mk _ _ _ _ _ children => 2 + Node.workloads children

/-- The number of tasks that some nodes stand for, at most. -/
def Node.workloads : List Node → Nat
  | [] => 0
  | n :: rest => n.workload + Node.workloads rest

end

namespace Visit

/-- A step that is still to be taken. -/
inductive Task where
  /-- Enter a node below the given ancestors. -/
  | enter (ancestors : List Node) (node : Node)
  /-- Leave the innermost scope. -/
  | leave

namespace Task

/-- The number of steps that a task stands for, at most. -/
def weight : Task → Nat
  | enter _ n => n.workload
  | leave => 1

/-- The number of steps that some tasks stand for, at most. -/
def weights : List Task → Nat
  | [] => 0
  | t :: ts => t.weight + weights ts

/-- The tasks of entering the children of a node. -/
def children (ancestors : List Node) (n : Node) : List Task := n.children.map (enter (n :: ancestors))

theorem weights_cons (t : Task) (ts : List Task) : weights (t :: ts) = t.weight + weights ts := rfl

theorem weights_append (a b : List Task) : weights (a ++ b) = weights a + weights b := by
  induction a with
  | nil => simp [weights]
  | cons t ts ih => rw [List.cons_append, weights_cons, weights_cons, ih, Nat.add_assoc]

theorem weights_map_enter (ancestors : List Node) (ns : List Node) :
    weights (ns.map (enter ancestors)) = Node.workloads ns := by
  induction ns with
  | nil => rfl
  | cons n ns ih => rw [List.map_cons, weights_cons, ih]; rfl

/-- Entering a node is more work than leaving it and entering its children. -/
theorem weights_children_lt (ancestors : List Node) (n : Node) :
    weights (children ancestors n) + 1 < n.workload := by
  cases n with
  | mk => simp only [children, weights_map_enter, Node.workload, Node.children]; omega

end Task

/-- Works off the tasks. -/
def walk (s : Subject) (scope : List Element) (st : State) : List Task → Except FileFailure State
  | [] => .ok st
  | .leave :: tasks =>
    match scope with
    | [] => .error .scopeUnderflow
    | _ :: outer => walk s outer st tasks
  | .enter ancestors n :: tasks =>
    match handle s ancestors scope n st with
    | .error e => .error e
    | .ok (some e, st) => walk s (e :: scope) st (Task.children ancestors n ++ .leave :: tasks)
    | .ok (none, st) => walk s scope st (Task.children ancestors n ++ tasks)
termination_by tasks => Task.weights tasks
decreasing_by
  · simp [Task.weights_cons, Task.weight]
  · have := Task.weights_children_lt ancestors n
    simp only [Task.weights_append, Task.weights_cons, Task.weight]
    omega
  · have := Task.weights_children_lt ancestors n
    simp only [Task.weights_append, Task.weights_cons, Task.weight]
    omega

/-- The findings of a whole tree. -/
def walkTree (s : Subject) (root : Node) : Except FileFailure Findings :=
  (walk s [] .initial [.enter [] root]).map (·.findings)

end Visit

end CodeAtlas
