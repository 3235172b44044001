import CodeAtlas.Proofs.Table
import CodeAtlas.Run

/-!
# Merging results

What a run has gathered after merging many results, one after another: the files, the elements and the references of those
that succeeded, in their order (`mergeAll_analyzed`, `mergeAll_elements`, `mergeAll_references`), the names that each file
binds (`mergeAll_bindings`), and the files that failed (`mergeAll_failed`). Of a file that has several results its last
failure is recorded (`failed_merge`).
-/

namespace CodeAtlas.Run

variable {result : FileResult}

/-- What a result that succeeded adds to a run. -/
theorem merge_of_succeeded (run : Run) (h : result.succeeded = true) :
    run.merge result =
      { run with
        elements := run.elements ++ result.findings.elements
        relations := run.relations ++ result.findings.relations
        references := run.references ++ result.findings.references
        bindings := run.bindings.put result.file
          (((run.bindings.get? result.file).getD .empty).update result.findings.bindings)
        analyzed := run.analyzed ++ [result.file] } := by
  unfold FileResult.succeeded at h
  unfold merge FileResult.findings
  cases outcome : result.outcome with
  | error e =>
    rw [outcome] at h
    cases h
  | ok found => rfl

/-- A result that failed adds nothing but a reason. -/
theorem merge_of_failed (run : Run) (h : result.succeeded = false) :
    ∃ reason, run.merge result = { run with failed := run.failed.put result.file reason } := by
  unfold FileResult.succeeded at h
  unfold merge
  cases outcome : result.outcome with
  | error e => exact ⟨_, rfl⟩
  | ok found =>
    rw [outcome] at h
    cases h

/-- What is recorded of a result: the reason if it failed. -/
def recorded (result : FileResult) : Option String :=
  match result.outcome with
  | .error error => some (reason error)
  | .ok _ => none

/-- A failure takes the place of the one that was recorded of its file before; a success takes nothing back. -/
theorem failed_merge (run : Run) (result : FileResult) (file : String) :
    (run.merge result).failed.get? file =
      (if result.file = file then recorded result else none).or (run.failed.get? file) := by
  unfold merge recorded
  cases result.outcome with
  | ok found => simp
  | error error =>
    dsimp only
    rw [Table.get?_put]
    split <;> rfl

/-- Only results that succeeded lengthen the lists of a run. -/
theorem merge_lists (run : Run) (result : FileResult) :
    (run.merge result).analyzed = run.analyzed ++ (if result.succeeded then [result.file] else []) ∧
      (run.merge result).elements = run.elements ++ (if result.succeeded then result.findings.elements else []) ∧
      (run.merge result).references = run.references ++ (if result.succeeded then result.findings.references else []) := by
  cases succeeded : result.succeeded with
  | true => simp [merge_of_succeeded run succeeded]
  | false =>
    obtain ⟨reason, merged⟩ := merge_of_failed run succeeded
    simp [merged]

/-- A list that each successful result lengthens is lengthened by all of them in their order. -/
theorem mergeAll_append {α : Type} {list : Run → List α} {added : FileResult → List α}
    (step : ∀ run result, list (run.merge result) = list run ++ if result.succeeded then added result else [])
    (results : List FileResult) (run : Run) :
    list (results.foldl merge run) = list run ++ (results.filter (·.succeeded)).flatMap added := by
  induction results generalizing run with
  | nil => exact (List.append_nil _).symm
  | cons result results ih =>
    rw [List.foldl_cons, ih, step]
    cases succeeded : result.succeeded <;> simp [succeeded]

variable (results : List FileResult) (run : Run)

/-- The files of successful results are listed in their order. -/
theorem mergeAll_analyzed :
    (results.foldl merge run).analyzed = run.analyzed ++ (results.filter (·.succeeded)).map (·.file) := by
  rw [mergeAll_append (fun run result => (merge_lists run result).1), List.map_eq_flatMap]

/-- The elements of successful results are gathered in the order of the results. -/
theorem mergeAll_elements :
    (results.foldl merge run).elements =
      run.elements ++ (results.filter (·.succeeded)).flatMap (·.findings.elements) :=
  mergeAll_append (fun run result => (merge_lists run result).2.1) results run

/-- The references of successful results are gathered in the order of the results. -/
theorem mergeAll_references :
    (results.foldl merge run).references =
      run.references ++ (results.filter (·.succeeded)).flatMap (·.findings.references) :=
  mergeAll_append (fun run result => (merge_lists run result).2.2) results run

/-- What a file binds are the bindings of its successful results, one after another. -/
theorem mergeAll_bindings (file : String) :
    (results.foldl merge run).bindings.get? file =
      ((results.filter (·.succeeded)).filter (·.file = file)).foldl
        (fun names result => some ((names.getD .empty).update result.findings.bindings)) (run.bindings.get? file) := by
  induction results generalizing run with
  | nil => rfl
  | cons result results ih =>
    rw [List.foldl_cons, ih]
    cases succeeded : result.succeeded with
    | true =>
      rw [merge_of_succeeded run succeeded, Table.get?_put, List.filter_cons_of_pos succeeded]
      by_cases own : result.file = file
      · rw [if_pos own, List.filter_cons_of_pos (by simpa using own), List.foldl_cons, own]
      · rw [if_neg own, List.filter_cons_of_neg (by simpa using own)]
    | false =>
      obtain ⟨reason, merged⟩ := merge_of_failed run succeeded
      rw [merged, List.filter_cons_of_neg (by simp [succeeded])]

/-- The files of failed results get reasons, in their order, if no file has two results. -/
theorem mergeAll_failed {results : List FileResult} {run : Run}
    (distinct : (run.failed.keys ++ results.map (·.file)).Nodup) :
    (results.foldl merge run).failed.keys =
      run.failed.keys ++ (results.filter fun result => !result.succeeded).map (·.file) := by
  induction results generalizing run with
  | nil => exact (List.append_nil _).symm
  | cons result results ih =>
    rw [List.map_cons] at distinct
    -- a file that failed before would keep its place among the failures
    have new : result.file ∉ run.failed.keys :=
      fun mem => (List.nodup_append.mp distinct).2.2 _ mem _ List.mem_cons_self rfl
    rw [List.foldl_cons]
    cases succeeded : result.succeeded with
    | true =>
      have same : (run.merge result).failed = run.failed := by rw [merge_of_succeeded run succeeded]
      rw [ih (by rw [same]; exact distinct.sublist ((List.sublist_cons_self _ _).append_left _)), same]
      simp [succeeded]
    | false =>
      obtain ⟨reason, merged⟩ := merge_of_failed run succeeded
      have keys : (run.merge result).failed.keys = run.failed.keys ++ [result.file] := by
        rw [merged, Table.keys_put, if_neg new]
      rw [ih (by rwa [keys, List.append_assoc]), keys]
      simp [succeeded]

end CodeAtlas.Run
