import CodeAtlas.Database.Export
import Mathlib.Data.List.Basic

/-!
# What is sent to a database

Every operation on a wire appends its calls to those made before. Statements that are tried are all sent (`tryAll_calls`),
and statements that are run are sent up to the first that fails (`SentUntil`, `runAll_sent`).

An export has a plan: ask whether the database answers, create indexes, delete, store nodes, edges, files and links. What
the database replies decides how much of the plan is sent and whether the export succeeds (`Export.Proceeds`):

- nothing but the question is sent to a database that does not answer it with the number one;
- a statement for an index may fail, the export goes on;
- a write that fails is the last statement.

So an export opens the database, sends a beginning of its plan, and closes the database at the end (`send_proceeds`). To a
database that is ready it sends the statements for the indexes and a beginning of its writes (`send_calls`).
-/

namespace CodeAtlas

/-- The statement of a call, if it runs one. -/
def Call.statement? : Call → Option Statement
  | run s => some s
  | connect _ | close => none

/-- The statements that calls run, in their order. -/
def statementsOf (calls : List Call) : List Statement := calls.filterMap Call.statement?

@[simp] theorem statementsOf_append (a b : List Call) : statementsOf (a ++ b) = statementsOf a ++ statementsOf b :=
  List.filterMap_append

@[simp] theorem statementsOf_map_run (statements : List Statement) :
    statementsOf (statements.map .run) = statements := by
  rw [statementsOf, List.filterMap_map]
  exact List.filterMap_some

namespace Wire

/-- The next reply is the number one. -/
def answers (w : Wire) : Bool :=
  match w.replies.head?.getD defaultReply with
  | .failure _ => false
  | .rows rows => answersOne rows

/-- The database opens and answers. -/
def isReady (w : Wire) : Bool := w.refusal.isNone && w.answers

/-- The reply to the statement with the given number; the next statement has the number zero. -/
def reply (w : Wire) (i : Nat) : Reply := w.replies[i]?.getD defaultReply

/-- The statement with the given number fails. -/
def failsAt (w : Wire) (i : Nat) : Bool :=
  match w.reply i with
  | .failure _ => true
  | .rows _ => false

@[simp] theorem run_calls (w : Wire) (s : Statement) : (w.run s).1.calls = w.calls ++ [.run s] := rfl

/-- Statements that are tried are all sent. -/
theorem tryAll_calls (w : Wire) (statements : List Statement) :
    (w.tryAll statements).calls = w.calls ++ statements.map .run := by
  unfold tryAll
  induction statements generalizing w with
  | nil => exact (List.append_nil _).symm
  | cons s rest ih => rw [List.foldl_cons, ih, run_calls, List.append_assoc, List.map_cons, List.singleton_append]

theorem verify_eq (w : Wire) : w.verify = (w.sent .probe, w.answers) := by
  unfold verify run answers
  cases w.replies.head?.getD defaultReply <;> rfl

/-- Each statement takes up one reply. -/
theorem failsAt_sent (w : Wire) (s : Statement) (i : Nat) : (w.sent s).failsAt i = w.failsAt (i + 1) := by
  unfold failsAt reply sent
  rw [List.getElem?_drop, Nat.add_comm]

theorem failsAt_tryAll (w : Wire) (statements : List Statement) (i : Nat) :
    (w.tryAll statements).failsAt i = w.failsAt (statements.length + i) := by
  unfold tryAll
  induction statements generalizing w with
  | nil => rw [List.foldl_nil, List.length_nil, Nat.zero_add]
  | cons s rest ih =>
    rw [List.foldl_cons, ih, List.length_cons]
    exact (failsAt_sent w s _).trans (congrArg w.failsAt (by omega))

/-- A statement is sent in any case, and fails or gives rows. -/
theorem run_cases (w : Wire) (s : Statement) :
    (w.failsAt 0 = true ∧ ∃ e, w.run s = (w.sent s, .error e)) ∨
      (w.failsAt 0 = false ∧ ∃ rows, w.run s = (w.sent s, .ok rows)) := by
  have next : w.replies.head?.getD defaultReply = w.reply 0 := by rw [reply, List.head?_eq_getElem?]
  unfold run failsAt
  rw [next]
  cases w.reply 0 with
  | failure text => exact Or.inl ⟨rfl, _, rfl⟩
  | rows rows => exact Or.inr ⟨rfl, _, rfl⟩

end Wire

/-! ## Statements up to the first that fails -/

/-- Of some statements those are sent that come up to the first one that fails. -/
structure SentUntil (fails : Nat → Bool) (statements sent : List Statement) : Prop where
  planned : sent <+: statements
  stopped : ∀ i < sent.length, fails i = true → i + 1 = sent.length
  persistent : sent.length < statements.length → ∃ i, i + 1 = sent.length ∧ fails i = true

namespace SentUntil

variable {fails : Nat → Bool} {s : Statement} {statements sent : List Statement}

theorem nil : SentUntil fails [] [] := ⟨List.prefix_rfl, nofun, nofun⟩

/-- A first statement that fails is the only one. -/
theorem failed (h : fails 0 = true) : SentUntil fails (s :: statements) [s] := by
  refine ⟨⟨statements, rfl⟩, fun i lt _ => ?_, fun _ => ⟨0, rfl, h⟩⟩
  rw [List.length_singleton] at lt ⊢
  omega

/-- After a first statement that does not fail the others follow. -/
theorem passed (first : fails 0 = false) (rest : SentUntil (fun i => fails (i + 1)) statements sent) :
    SentUntil fails (s :: statements) (s :: sent) := by
  refine ⟨List.cons_prefix_cons.mpr ⟨rfl, rest.planned⟩, fun i lt failed => ?_, fun lt => ?_⟩
  · cases i with
    | zero =>
      rw [first] at failed
      cases failed
    | succ i =>
      rw [List.length_cons] at lt ⊢
      exact congrArg (· + 1) (rest.stopped i (by omega) failed)
  · rw [List.length_cons, List.length_cons] at lt
    obtain ⟨i, last, failed⟩ := rest.persistent (by omega)
    exact ⟨i + 1, by rw [List.length_cons, last], failed⟩

/-- If none fails, all statements are sent. -/
theorem eq_of_passed (h : SentUntil fails statements sent) (passed : ∀ i < statements.length, fails i = false) :
    sent = statements := by
  refine h.planned.eq_of_length_le (Nat.le_of_not_lt fun short => ?_)
  obtain ⟨i, last, failed⟩ := h.persistent short
  rw [passed i (by omega)] at failed
  cases failed

end SentUntil

/-- Statements are run up to the first that fails, and all is well if none does. -/
theorem Wire.runAll_sent (w : Wire) (statements : List Statement) : ∃ sent, SentUntil w.failsAt statements sent ∧
    (w.runAll statements).1.calls = w.calls ++ sent.map .run ∧
    ((w.runAll statements).2.isOk = true ↔ ∀ i < statements.length, w.failsAt i = false) := by
  induction statements generalizing w with
  | nil => exact ⟨[], .nil, (List.append_nil _).symm, iff_of_true rfl fun i lt => absurd lt (Nat.not_lt_zero i)⟩
  | cons s rest ih =>
    rcases w.run_cases s with ⟨fails, e, ran⟩ | ⟨passes, rows, ran⟩
    · simp only [runAll, ran]
      refine ⟨[s], .failed fails, rfl, iff_of_false Bool.false_ne_true fun well => ?_⟩
      rw [well 0 (by simp)] at fails
      cases fails
    · simp only [runAll, ran]
      obtain ⟨sent, stops, calls, done⟩ := ih (w.sent s)
      have later : (w.sent s).failsAt = fun i => w.failsAt (i + 1) := funext (failsAt_sent w s)
      rw [later] at stops done
      refine ⟨s :: sent, .passed passes stops, ?_, done.trans ⟨fun well i lt => ?_, fun well i lt => ?_⟩⟩
      · rw [calls, Wire.sent, List.append_assoc, List.map_cons, List.singleton_append]
      · cases i with
        | zero => exact passes
        | succ i => exact well i (Nat.lt_of_succ_lt_succ lt)
      · exact well (i + 1) (Nat.succ_lt_succ lt)

/-! ## Exports -/

namespace Export

/-- The statements before the writes. -/
def preparation : List Statement := .probe :: PropertyIndex.all.map .createIndex

/-- The number of the first write among the statements of a plan. -/
def firstWrite : Nat := PropertyIndex.all.length + 1

theorem length_preparation : preparation.length = firstWrite := by
  rw [preparation, List.length_cons, List.length_map, firstWrite]

theorem plan_eq (x : Export) : x.plan = preparation ++ x.writes := rfl

/-- What is sent of a plan, and whether the export is done. -/
structure Proceeds (x : Export) (w : Wire) (sent : List Statement) (done : Bool) : Prop where
  /-- The statements are a beginning of the plan. -/
  planned : sent <+: x.plan
  /-- A database that opens is asked whether it answers, one that does not open is asked nothing. -/
  asked : sent ≠ [] ↔ w.refusal = none
  /-- Nothing but this question is sent unless the database answers it with one. -/
  guarded : ∀ s ∈ sent, s ≠ .probe → w.isReady = true
  /-- If it does, the export gets to its writes, whether indexes can be created or not. -/
  begun : w.isReady = true → firstWrite < sent.length
  /-- A write that fails is the last statement. -/
  stopped : ∀ i, firstWrite ≤ i → i < sent.length → w.failsAt i = true → i + 1 = sent.length
  /-- Nothing else stops an export that has got to its writes. -/
  persistent : firstWrite < sent.length → sent.length < x.plan.length → w.failsAt (sent.length - 1) = true
  /-- The export is done if the database opens and answers and no write fails. -/
  completed : done = true ↔ w.isReady = true ∧ ∀ i, firstWrite ≤ i → i < x.plan.length → w.failsAt i = false

variable {x : Export} {w : Wire}

theorem isReady_of_opened (opened : w.refusal = none) : w.isReady = w.answers := by
  rw [Wire.isReady, opened, Option.isNone_none, Bool.true_and]

/-- A database that does not open is asked nothing. -/
theorem proceeds_refused {refusal : Refusal} (refused : w.refusal = some refusal) : x.Proceeds w [] false := by
  have unready : w.isReady = false := by rw [Wire.isReady, refused, Option.isNone_some, Bool.false_and]
  refine ⟨List.nil_prefix, by simp [refused], nofun, ?_, nofun, nofun, ?_⟩
  · simp [unready]
  · simp [unready]

/-- A database that does not answer is sent nothing else. -/
theorem proceeds_silent (opened : w.refusal = none) (silent : w.answers = false) : x.Proceeds w [.probe] false := by
  have unready : w.isReady = false := (isReady_of_opened opened).trans silent
  refine ⟨⟨_, rfl⟩, by simp [opened], fun s mem other => ?_, by simp [unready], fun i late lt _ => ?_, fun lt _ => ?_, ?_⟩
  · exact absurd (List.mem_singleton.mp mem) other
  · rw [List.length_singleton] at lt
    rw [firstWrite] at late
    omega
  · rw [firstWrite, List.length_singleton] at lt
    omega
  · simp [unready]

/-- A database that is ready is sent the statements for indexes, and the writes up to the first that fails. -/
theorem proceeds_ready (opened : w.refusal = none) (answered : w.answers = true) {written : List Statement} {done : Bool}
    (stops : SentUntil (fun i => w.failsAt (firstWrite + i)) x.writes written)
    (completed : done = true ↔ ∀ i < x.writes.length, w.failsAt (firstWrite + i) = false) :
    x.Proceeds w (preparation ++ written) done := by
  have ready : w.isReady = true := (isReady_of_opened opened).trans answered
  have sent : (preparation ++ written).length = firstWrite + written.length := by
    rw [List.length_append, length_preparation]
  have planned : x.plan.length = firstWrite + x.writes.length := by
    rw [plan_eq, List.length_append, length_preparation]
  have nonempty : 0 < x.writes.length := by
    simp only [writes, Statement.ofDependencies, List.length_append, List.length_cons]
    omega
  refine ⟨(List.prefix_append_right_inj _).mpr stops.planned, iff_of_true (List.cons_ne_nil _ _) opened,
    fun _ _ _ => ready, fun _ => ?_, fun i late lt fails => ?_, fun _ lt => ?_, ?_⟩
  · rw [sent]
    by_contra without
    obtain ⟨i, last, -⟩ := stops.persistent (by omega)
    omega
  · obtain ⟨j, rfl⟩ := Nat.exists_eq_add_of_le late
    have last := stops.stopped j (by omega) fails
    omega
  · obtain ⟨i, last, fails⟩ := stops.persistent (by omega)
    have place : (preparation ++ written).length - 1 = firstWrite + i := by omega
    rw [place]
    exact fails
  · rw [completed, planned]
    refine ⟨fun well => ⟨ready, fun i late lt => ?_⟩, fun well i lt => well.2 _ (by omega) (by omega)⟩
    obtain ⟨j, rfl⟩ := Nat.exists_eq_add_of_le late
    exact well j (by omega)

/-- Whatever the database replies, an export opens it, sends a beginning of its plan, and closes it if it opens. -/
theorem send_proceeds (x : Export) (c : Credentials) (w : Wire) : ∃ sent, x.Proceeds w sent (x.send c w).2.isOk ∧
    (x.send c w).1.calls =
      w.calls ++ .connect c :: if w.refusal = none then sent.map .run ++ [.close] else [] := by
  unfold send
  cases refused : w.refusal with
  | some refusal =>
    simp only [Wire.connect, refused]
    exact ⟨[], proceeds_refused refused, by simp⟩
  | none =>
    simp only [Wire.connect, refused, Wire.verify_eq]
    cases answers : w.answers with
    | false =>
      have silent : Wire.answers ⟨none, w.replies, w.calls ++ [.connect c]⟩ = false := answers
      simp only [silent]
      exact ⟨[.probe], proceeds_silent refused answers, by simp [Wire.close, Wire.sent]⟩
    | true =>
      have answered : Wire.answers ⟨none, w.replies, w.calls ++ [.connect c]⟩ = true := answers
      simp only [answered]
      generalize asked : Wire.sent ⟨none, w.replies, w.calls ++ [.connect c]⟩ .probe = w'
      obtain ⟨written, stops, calls, done⟩ := w'.createIndexes.runAll_sent x.writes
      have later : w'.createIndexes.failsAt = fun i => w.failsAt (firstWrite + i) := by
        funext i
        rw [Wire.createIndexes, Wire.failsAt_tryAll, ← asked, Wire.failsAt_sent, List.length_map, firstWrite]
        exact congrArg w.failsAt (by omega)
      rw [later] at stops done
      refine ⟨preparation ++ written, proceeds_ready refused answers stops ?_, ?_⟩
      · rw [← done]
        cases (w'.createIndexes.runAll x.writes).2 <;> rfl
      · have before : w'.createIndexes.calls = w.calls ++ .connect c :: preparation.map .run := by
          rw [Wire.createIndexes, Wire.tryAll_calls, ← asked]
          simp [Wire.sent, preparation]
        simp [Wire.close, calls, before]

/-- The first write is sent to a database that is ready, as the statements before it are. -/
theorem Proceeds.written {sent : List Statement} {done : Bool} (h : x.Proceeds w sent done) (ready : w.isReady = true) :
    ∃ written, sent = preparation ++ written ∧ written <+: x.writes ∧ written.head? = x.writes.head? := by
  have longer : preparation.length < sent.length := length_preparation ▸ h.begun ready
  obtain ⟨written, rfl⟩ : preparation <+: sent :=
    List.prefix_of_prefix_length_le ⟨x.writes, rfl⟩ h.planned (Nat.le_of_lt longer)
  have within : written <+: x.writes := (List.prefix_append_right_inj _).mp h.planned
  refine ⟨written, rfl, within, ?_⟩
  cases written with
  | nil => simp at longer
  | cons first rest =>
    obtain ⟨further, eq⟩ := within
    rw [← eq]
    rfl

/-- What an export sends: to a database that is not ready nothing but the question whether it answers, else also the
statements for the indexes and a beginning of the writes. -/
theorem send_calls (x : Export) (c : Credentials) (w : Wire) :
    ∃ calls, (x.send c w).1.calls = w.calls ++ calls ∧
      ((w.isReady = false ∧ statementsOf calls ⊆ [.probe]) ∨
        (w.isReady = true ∧ ∃ written, written <+: x.writes ∧ written.head? = x.writes.head? ∧
          statementsOf calls = .probe :: PropertyIndex.all.map .createIndex ++ written)) := by
  obtain ⟨sent, proceeds, calls⟩ := x.send_proceeds c w
  have statements : statementsOf (.connect c :: if w.refusal = none then sent.map .run ++ [.close] else []) = sent := by
    split
    · show statementsOf (sent.map .run ++ [.close]) = sent
      rw [statementsOf_append, statementsOf_map_run]
      exact List.append_nil sent
    · rename_i refused
      exact (not_not.mp fun sent => refused (proceeds.asked.mp sent)).symm
  refine ⟨_, calls, ?_⟩
  rw [statements]
  cases ready : w.isReady with
  | false =>
    refine Or.inl ⟨rfl, fun s mem => List.mem_singleton.mpr ?_⟩
    by_contra other
    rw [proceeds.guarded s mem other] at ready
    cases ready
  | true =>
    obtain ⟨written, eq, within, first⟩ := proceeds.written ready
    exact Or.inr ⟨rfl, written, within, first, eq⟩

end Export

end CodeAtlas
