import CodeAtlas.Proofs.Text.Split
import CodeAtlas.Proofs.Visit.Outline

/-!
# The texts behind ids

The id of an element is the hash of a text (`idText`): the id of the run, the number of the file, the number of the element,
and the file and place of its node, with colons between them. Files and node types may hold colons and digits themselves,
but decimal numbers hold no colon, and they stand before them; so within a run a text determines both numbers
(`idText_numbers`).

A visit gives the numbers one, two, three and so on to the elements that it creates (`created_numbers`), whether it comes to
its end or fails on the way. If it comes to its end, these are the elements that it has found (`walk_created`).
-/

namespace CodeAtlas.Visit

/-! ## Reading the numbers off a text -/

theorem ne_colon_of_mem_number (n : Nat) : ∀ c ∈ (toString n).toList, c ≠ ':' := by
  rw [Nat.toString_eq_repr, Nat.toList_repr]
  rintro c mem rfl
  exact absurd (Nat.isDigit_of_mem_toDigits (by decide) (by decide) mem) (by decide)

/-- Decimal digits can be read back. -/
theorem number_injective {a b : Nat} (h : (toString a).toList = (toString b).toList) : a = b := by
  simp only [Nat.toString_eq_repr, Nat.toList_repr] at h
  have read := congrArg (fun digits => Nat.ofDigitChars 10 digits 0) h
  simpa using read

/-- The text behind an id starts with the id of the run and the two numbers. -/
theorem toList_idText (runId : String) (ordinal : Nat) (file : String) (sequence : Nat) (n : Node) :
    ∃ rest, (idText runId ordinal file sequence n).toList =
      runId.toList ++ ':' :: ((toString ordinal).toList ++ ':' :: ((toString sequence).toList ++ ':' :: rest)) := by
  have colon : ":".toList = [':'] := rfl
  have number : toString (ordinal : Int) = toString ordinal := rfl
  simp only [idText, number, String.toList_intercalate, List.map_cons, List.intercalate_cons_cons, colon,
    List.append_assoc, List.cons_append, List.nil_append]
  exact ⟨_, rfl⟩

/-- Within a run, the text behind an id tells the number of the file and the number of the element. -/
theorem idText_numbers {runId : String} {ordinal ordinal' : Nat} {file file' : String} {sequence sequence' : Nat}
    {n n' : Node} (h : idText runId ordinal file sequence n = idText runId ordinal' file' sequence' n') :
    ordinal = ordinal' ∧ sequence = sequence' := by
  obtain ⟨rest, text⟩ := toList_idText runId ordinal file sequence n
  obtain ⟨rest', text'⟩ := toList_idText runId ordinal' file' sequence' n'
  rw [h, text', List.append_cancel_left_eq, List.cons_inj_right] at text
  obtain ⟨ordinals, -, text⟩ :=
    Text.append_separator_inj (· = ':') rfl rfl (ne_colon_of_mem_number _) (ne_colon_of_mem_number _) text
  obtain ⟨sequences, -, -⟩ :=
    Text.append_separator_inj (· = ':') rfl rfl (ne_colon_of_mem_number _) (ne_colon_of_mem_number _) text
  exact ⟨(number_injective ordinals).symm, (number_injective sequences).symm⟩

/-! ## The elements that a visit creates -/

/-- The elements that are created at a node: their numbers and the node. -/
def createdAt (s : Subject) (ancestors : List Node) (n : Node) (st : State) : List (Nat × Node) :=
  if declaresElement s ancestors n then [(st.sequence + 1, n)] else []

/-- The elements that are created while tasks are worked off, up to the end or to a failure: their numbers and nodes. -/
def created (s : Subject) (scope : List Element) (st : State) : List Task → List (Nat × Node)
  | [] => []
  | .leave :: tasks =>
    match scope with
    | [] => []
    | _ :: outer => created s outer st tasks
  | .enter ancestors n :: tasks =>
    let here := createdAt s ancestors n st
    match handle s ancestors scope n st with
    | .error _ => here
    | .ok (some e, st) => here ++ created s (e :: scope) st (Task.children ancestors n ++ .leave :: tasks)
    | .ok (none, st) => here ++ created s scope st (Task.children ancestors n ++ tasks)
termination_by tasks => Task.weights tasks
decreasing_by
  · simp [Task.weights_cons, Task.weight]
  · have := Task.weights_children_lt ancestors n
    simp only [Task.weights_append, Task.weights_cons, Task.weight]
    omega
  · have := Task.weights_children_lt ancestors n
    simp only [Task.weights_append, Task.weights_cons, Task.weight]
    omega

/-- The created elements have been added, under the numbers that come next. -/
structure Adds (s : Subject) (st : State) (new : List (Nat × Node)) (st' : State) : Prop where
  ids : st'.findings.elements.map (·.id) = st.findings.elements.map (·.id) ++ new.map fun c => s.ident c.1 c.2
  sequence : st'.sequence = st.sequence + new.length

namespace Adds

variable {s : Subject} {scope : List Element} {n : Node} {st st' st'' : State} {new new' : List (Nat × Node)}

theorem nothing (same : SameOutline st st') : Adds s st [] st' := by
  refine ⟨?_, same.sequence⟩
  rw [same.elements, List.map_nil, List.append_nil]

theorem element {kind : ElementKind} {name : String} (same : SameOutline (declare s scope n kind name st).2 st') :
    Adds s st [(st.sequence + 1, n)] st' := by
  refine ⟨?_, ?_⟩
  · rw [same.elements, declare_elements, List.map_append]
    rfl
  · rw [same.sequence, declare_sequence]
    rfl

theorem trans (h : Adds s st new st') (h' : Adds s st' new' st'') : Adds s st (new ++ new') st'' := by
  refine ⟨?_, ?_⟩
  · rw [h'.ids, h.ids, List.map_append, List.append_assoc]
  · rw [h'.sequence, h.sequence, List.length_append, Nat.add_assoc]

/-- A node that is handled adds what is created at it. -/
theorem handle {ancestors : List Node} {out : Option Element} (h : Visit.handle s ancestors scope n st = .ok (out, st')) :
    Adds s st (createdAt s ancestors n st) st' := by
  unfold createdAt
  cases handle_declares h with
  | nothing silent same =>
    rw [silent]
    exact nothing same
  | element declares kind name same _ =>
    rw [declares]
    exact element same

end Adds

/-- A walk that comes to its end has added everything that it created. -/
theorem walk_created {s : Subject} (scope : List Element) (st : State) (tasks : List Task) {st' : State}
    (h : walk s scope st tasks = .ok st') : Adds s st (created s scope st tasks) st' := by
  fun_induction walk s scope st tasks with
  | case1 scope st =>
    obtain rfl : st = st' := Except.ok.inj h
    rw [created]
    exact .nothing (.refl st)
  | case2 => cases h
  | case3 st tasks e outer ih =>
    rw [created]
    exact ih h
  | case4 => cases h
  | case5 scope st ancestors n tasks e st₁ handled ih =>
    rw [created, handled]
    exact (Adds.handle handled).trans (ih h)
  | case6 scope st ancestors n tasks st₁ handled ih =>
    rw [created, handled]
    exact (Adds.handle handled).trans (ih h)

/-- Elements are numbered one after another, also up to a failure. -/
theorem created_numbers (s : Subject) (scope : List Element) (st : State) (tasks : List Task) :
    (created s scope st tasks).map Prod.fst = List.range' (st.sequence + 1) (created s scope st tasks).length := by
  have first : ∀ ancestors n (st : State), (createdAt s ancestors n st).map Prod.fst =
      List.range' (st.sequence + 1) (createdAt s ancestors n st).length := by
    intro ancestors n st
    unfold createdAt
    split <;> rfl
  -- the numbers after a handled node go on where those before it end
  have next : ∀ ancestors n (st st₁ : State) (rest : List (Nat × Node)), Adds s st (createdAt s ancestors n st) st₁ →
      rest.map Prod.fst = List.range' (st₁.sequence + 1) rest.length →
      (createdAt s ancestors n st ++ rest).map Prod.fst =
        List.range' (st.sequence + 1) (createdAt s ancestors n st ++ rest).length := by
    intro ancestors n st st₁ rest adds numbers
    rw [List.map_append, first, numbers, adds.sequence, List.length_append, ← List.range'_append_1]
    congr 2
    omega
  fun_induction created s scope st tasks with
  | case1 | case2 => rfl
  | case3 st tasks e outer ih => exact ih
  | case4 scope st ancestors n tasks here e failed => exact first ancestors n st
  | case5 scope st ancestors n tasks here e st₁ handled ih => exact next ancestors n st st₁ _ (.handle handled) ih
  | case6 scope st ancestors n tasks here st₁ handled ih => exact next ancestors n st st₁ _ (.handle handled) ih

end CodeAtlas.Visit
